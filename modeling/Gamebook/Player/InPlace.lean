import Gamebook.Player.Keys

set_option autoImplicit false

namespace Gamebook.Session

abbrev InPlace := EStateM KeyError Session

namespace InPlace

def change (change : Player → Player) : InPlace Unit := modify (update change)

def install (engine : Option Engine) : InPlace Unit :=
  modify fun session => { session with engine }

def advance (texts : List String) (engine : Engine) : InPlace Boundary :=
  match told : engine.next with
  | (.text text _, after) =>
    have := Engine.phaseRank_next_text told
    do
      install after
      advance (texts ++ [text]) after
  | (.menu items, after) => do
    install after
    return .ofMenu texts items
  | (.ending reason, after) => do
    install after
    return .ofEnding texts reason
termination_by Engine.phaseRank engine.phase
decreasing_by assumption

def choose (index : Nat) (engine : Engine) : InPlace Engine :=
  match engine.choose index with
  | .error error => throw (.choice error)
  | .ok chosen => do
    install chosen
    return chosen

def startSelected (catalog : Catalog) : InPlace Response := do
  let index := (← get).player.picker.selected
  match catalog.scenarios[index]? with
  | none => throw .noScenarioSelected
  | some loaded =>
    -- the new engine takes the place of the old one when it has come to its first boundary
    let (boundary, engine) := (Engine.start loaded.scenario).advance
    install engine
    change (.begin index boundary)
    change (.say ("playing " ++ loaded.fileName))
    return .stay

def pressInPicker (catalog : Catalog) (key : Key) : InPlace Response := do
  if catalog.isEmpty then
    change (.say "no scenarios")
    return .stay
  match key with
  | .up => change (movePicker catalog .up)
  | .down => change (movePicker catalog .down)
  | .enter => return ← startSelected catalog
  | _ => pure ()
  return .stay

def takeChoice (engine : Engine) : InPlace Response := do
  let player := (← get).player
  if player.choices = [] then
    change (.say "no pending choice")
    return .stay
  match player.choices[player.choice.selected]? with
  | none => throw .noChoices
  | some (index, label) =>
    let chosen ← choose index engine
    let boundary ← advance [] chosen
    change (.goOnTo boundary)
    change (.say ("chose " ++ label))
    return .stay

def restart (engine : Engine) : InPlace Response := do
  install engine.restart
  let boundary ← advance [] engine.restart
  change (.startAt boundary)
  change (.say "restarted")
  return .stay

def leave : InPlace Response := do
  install none
  change .leave
  change (.say "ready")
  return .stay

def pressInPlayback (key : Key) : InPlace Response := do
  if key = .char 'b' then return ← leave
  match (← get).engine with
  | none => throw .nothingPlaying
  | some engine =>
    if key = .char 'r' then return ← restart engine
    if (← get).player.typewriter.isBusy then
      change (pressWhileTyping key)
      return .stay
    match key with
    | .up => change (moveChoice .up)
    | .down => change (moveChoice .down)
    | .enter => return ← takeChoice engine
    | _ => pure ()
    return .stay

def press (catalog : Catalog) (press : KeyPress) : InPlace Response := do
  if isQuit press then return .quit
  if press.key = .char 'h' then
    change toggleHelp
    return .stay
  match (← get).player.screen with
  | .picker => pressInPicker catalog press.key
  | .playback => pressInPlayback press.key

end InPlace

end Gamebook.Session
