import Gamebook.Player

set_option autoImplicit false

namespace Gamebook

inductive Key where
  | up
  | down
  | enter
  | escape
  | char (value : Char)
  | other
deriving DecidableEq

structure KeyPress where
  key : Key
  control : Bool := false
deriving DecidableEq

inductive Response where
  | stay
  | quit
deriving DecidableEq

inductive KeyError where
  | noScenarioSelected
  | nothingPlaying
  | noChoices
  | choice (error : ChoiceError)
deriving DecidableEq

def KeyError.failure : KeyError → Failure
  | .noScenarioSelected => ⟨"TUI_SCENARIO_INDEX", "No scenario is selected"⟩
  | .nothingPlaying => ⟨"TUI_NO_ENGINE", "No scenario is playing"⟩
  | .noChoices => ⟨"TUI_CHOICE_PARSE", "No choices available"⟩
  | .choice error => error.failure

namespace Session

def stay (session : Session) : Session × Except KeyError Response := (session, .ok .stay)

def fail (error : KeyError) (session : Session) : Session × Except KeyError Response :=
  (session, .error error)

def update (change : Player → Player) (session : Session) : Session :=
  { session with player := change session.player }

def startSelected (catalog : Catalog) (session : Session) :
    Session × Except KeyError Response :=
  let index := session.player.picker.selected
  match catalog.scenarios[index]? with
  | none => session.fail .noScenarioSelected
  | some loaded =>
    let (boundary, engine) := (Engine.start loaded.scenario).advance
    stay
      ⟨(session.player.begin index boundary).say ("playing " ++ loaded.fileName),
        some engine⟩

def movePicker (catalog : Catalog) (move : Move) (player : Player) : Player :=
  { player with picker := player.picker.step catalog.scenarios.length move }

def pressInPicker (catalog : Catalog) (key : Key) (session : Session) :
    Session × Except KeyError Response :=
  if catalog.isEmpty then (session.update (.say "no scenarios")).stay
  else
    match key with
    | .up => (session.update (movePicker catalog .up)).stay
    | .down => (session.update (movePicker catalog .down)).stay
    | .enter => session.startSelected catalog
    | _ => session.stay

def moveChoice (move : Move) (player : Player) : Player :=
  if player.choices = [] then player.say "no pending choice"
  else { player with choice := player.choice.step player.choices.length move }

def takeChoice (engine : Engine) (session : Session) : Session × Except KeyError Response :=
  if session.player.choices = [] then (session.update (.say "no pending choice")).stay
  else
    match session.player.choices[session.player.choice.selected]? with
    | none => session.fail .noChoices
    | some (index, label) =>
      match engine.choose index with
      | .error error => session.fail (.choice error)
      | .ok chosen =>
        let (boundary, reached) := chosen.advance
        stay ⟨(session.player.goOnTo boundary).say ("chose " ++ label), some reached⟩

def restart (engine : Engine) (session : Session) : Session :=
  let (boundary, reached) := engine.restart.advance
  ⟨(session.player.startAt boundary).say "restarted", some reached⟩

def pressWhileTyping (key : Key) (player : Player) : Player :=
  match key with
  -- no choice is taken before its text has been shown
  | .enter | .char ' ' => player.flush
  | _ => player.say "text streaming..."

def pressInPlayback (key : Key) (session : Session) : Session × Except KeyError Response :=
  if key = .char 'b' then stay ⟨session.player.leave.say "ready", none⟩
  else
    match session.engine with
    | none => session.fail .nothingPlaying
    | some engine =>
      if key = .char 'r' then (session.restart engine).stay
      else if session.player.typewriter.isBusy then
        (session.update (pressWhileTyping key)).stay
      else
        match key with
        | .up => (session.update (moveChoice .up)).stay
        | .down => (session.update (moveChoice .down)).stay
        | .enter => session.takeChoice engine
        | _ => session.stay

def isQuit (press : KeyPress) : Bool :=
  press.key = .escape || press.key = .char 'q' || (press.key = .char 'c' && press.control)

def toggleHelp (player : Player) : Player := { player with helpVisible := !player.helpVisible }

def press (catalog : Catalog) (press : KeyPress) (session : Session) :
    Session × Except KeyError Response :=
  if isQuit press then (session, .ok .quit)
  else if press.key = .char 'h' then (session.update toggleHelp).stay
  else
    match session.player.screen with
    | .picker => session.pressInPicker catalog press.key
    | .playback => session.pressInPlayback press.key

def tick (session : Session) : Bool × Session :=
  let (moved, player) := session.player.tick
  (moved, { session with player })

end Session

end Gamebook
