import Gamebook.Playthrough

set_option autoImplicit false

namespace Gamebook

inductive Call where
  | describe (text : String)
  | offer (labels : List String)
  | announce (reason : Ending)
deriving DecidableEq

def Call.isDescription : Call → Bool
  | .describe _ => true
  | _ => false

structure Script where
  picks : List Nat
  calls : List Call := []
deriving DecidableEq

namespace Script

structure Faults where
  description : Option Nat := none
  announcement : Bool := false

inductive Fault where
  | description
  | exhausted
  | announcement
deriving DecidableEq

def note (call : Call) (script : Script) : Script := { script with calls := script.calls ++ [call] }

def shell (faults : Faults) : Shell Script Fault where
  describe text script :=
    if faults.description = some (script.calls.countP Call.isDescription) then
      (.error .description, script)
    else (.ok (), script.note (.describe text))
  offer labels script :=
    match script.picks with
    | [] => (.error .exhausted, script.note (.offer labels))
    | pick :: rest => (.ok pick, { script.note (.offer labels) with picks := rest })
  announce reason script :=
    if faults.announcement then (.error .announcement, script)
    else (.ok (), script.note (.announce reason))

def patience (faults : Faults) : Shell.Patience (shell faults) where
  left script := script.picks.length
  describe_le text script := by
    simp only [shell]
    split <;> simp [note]
  offer_lt labels script index next offered := by
    simp only [shell] at offered
    split at offered
    · simp at offered
    · rename_i pick rest picks
      simp only [Prod.mk.injEq] at offered
      rw [← offered.2, picks]
      simp

def play (faults : Faults) (picks : List Nat) (engine : Engine) : Played Script Fault :=
  Shell.play (patience faults) engine { picks }

end Script

end Gamebook
