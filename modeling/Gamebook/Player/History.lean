import Gamebook.Player.Keys

set_option autoImplicit false

namespace Gamebook.Session

inductive Input where
  | press (press : KeyPress)
  | tick
deriving DecidableEq

def receive (catalog : Catalog) (session : Session) : Input → Session
  | .press key => (session.press catalog key).1
  | .tick => session.tick.2

def after (catalog : Catalog) (inputs : List Input) : Session :=
  inputs.foldl (receive catalog) {}

def startsOver (catalog : Catalog) (session : Session) : Input → Bool
  | .press ⟨.enter, _⟩ =>
    session.player.screen = .picker && (catalog.scenarios[session.player.picker.selected]?).isSome
  | .press ⟨.char 'r', _⟩ => session.player.screen = .playback && session.engine.isSome
  | _ => false

def pick? (session : Session) : Input → Option Nat
  | .press ⟨.enter, _⟩ =>
    if session.player.screen = .playback ∧ session.engine.isSome ∧
        ¬session.player.typewriter.isBusy ∧ session.player.choices ≠ [] then
      some session.player.choice.selected
    else none
  | _ => none

def picksFrom (catalog : Catalog) (session : Session) (picks : List Nat) : List Input → List Nat
  | [] => picks
  | input :: rest =>
    let picks :=
      if session.startsOver catalog input then [] else picks ++ (session.pick? input).toList
    (session.receive catalog input).picksFrom catalog picks rest

def picks (catalog : Catalog) (inputs : List Input) : List Nat :=
  ({} : Session).picksFrom catalog [] inputs

end Gamebook.Session

namespace Gamebook.Player

inductive Change where
  | goOnTo (boundary : Boundary)
  | startAt (boundary : Boundary)
  | begin (index : Nat) (boundary : Boundary)
  | leave
  | tick
  | flush
deriving DecidableEq

def apply (player : Player) : Change → Player
  | .goOnTo boundary => player.goOnTo boundary
  | .startAt boundary => player.startAt boundary
  | .begin index boundary => player.begin index boundary
  | .leave => player.leave
  | .tick => player.tick.2
  | .flush => player.flush

def after (changes : List Change) : Player := changes.foldl apply {}

def story (lines : List String) : List Change → List String
  | [] => lines
  | .goOnTo boundary :: rest => story (lines ++ boundary.texts) rest
  | .startAt boundary :: rest => story boundary.texts rest
  | .begin _ boundary :: rest => story boundary.texts rest
  | .leave :: rest => story [] rest
  | _ :: rest => story lines rest

end Gamebook.Player
