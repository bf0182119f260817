import Gamebook.Engine

set_option autoImplicit false

namespace Gamebook.Engine

inductive Operation where
  | next
  | choose (index : Nat)
  | restart
deriving DecidableEq

inductive Response where
  | output (output : Output)
  | chosen
  | refused (error : ChoiceError)
  | restarted
deriving DecidableEq

def respond (engine : Engine) : Operation → Response × Engine
  | .next =>
    let (output, after) := engine.next
    (.output output, after)
  | .choose index =>
    match engine.choose index with
    | .ok after => (.chosen, after)
    | .error error => (.refused error, engine)
  | .restart => (.restarted, engine.restart)

def after (engine : Engine) (history : List Operation) : Engine :=
  history.foldl (fun reached operation => (reached.respond operation).2) engine

def responses (engine : Engine) : List Operation → List Response
  | [] => []
  | operation :: rest =>
    let (response, reached) := engine.respond operation
    response :: reached.responses rest

theorem after_append (engine : Engine) (first second : List Operation) :
    engine.after (first ++ second) = (engine.after first).after second :=
  List.foldl_append

theorem after_concat (engine : Engine) (history : List Operation) (operation : Operation) :
    engine.after (history ++ [operation]) = ((engine.after history).respond operation).2 :=
  after_append engine history [operation]

theorem responses_cons (engine : Engine) (operation : Operation) (rest : List Operation) :
    engine.responses (operation :: rest) =
      (engine.respond operation).1 :: (engine.respond operation).2.responses rest := rfl

theorem responses_append (engine : Engine) (first second : List Operation) :
    engine.responses (first ++ second) =
      engine.responses first ++ (engine.after first).responses second := by
  induction first generalizing engine with
  | nil => rfl
  | cons operation rest ih =>
    rw [List.cons_append, responses_cons, ih]
    rfl

end Gamebook.Engine
