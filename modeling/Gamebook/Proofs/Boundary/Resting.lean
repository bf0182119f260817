import Gamebook.Proofs.Boundary.Advance
import Gamebook.Proofs.Engine.NormalForm
import Gamebook.Proofs.Engine.Trail

set_option autoImplicit false

namespace Gamebook.Engine

-- The loop of `advance` with a limit on the outputs that it asks for; there is no result if it
-- needs more.
def advanceWithin : Nat → List String → Engine → Option (Boundary × Engine)
  | 0, _, _ => none
  | limit + 1, texts, engine =>
    match engine.next with
    | (.text text _, after) => advanceWithin limit (texts ++ [text]) after
    | (.menu items, after) => some (.ofMenu texts items, after)
    | (.ending reason, after) => some (.ofEnding texts reason, after)

def Response.enters : Response → Bool
  | .chosen => true
  | .restarted => true
  | .output _ => false
  | .refused _ => false

def describedHere (responses : List Response) : List Nat :=
  (responses.rtakeWhile fun response => !response.enters).filterMap Response.visit?

inductive Rests (engine : Engine) (texts : List String) : Boundary → Prop where
  | waiting (items : List MenuItem) (pending : engine.pending = some items)
      (running : engine.ending = none) : Rests engine texts (.ofMenu texts items)
  | ended (reason : Ending) (ending : engine.ending = some reason)
      (idle : engine.pending = none) : Rests engine texts (.ofEnding texts reason)

theorem within_advances (limit : Nat) (texts : List String) (engine : Engine)
    (result : Boundary × Engine) (done : advanceWithin limit texts engine = some result) :
    engine.advanceFrom texts = result := by
  induction limit generalizing texts engine with
  | zero => cases done
  | succ limit ih =>
    cases told : engine.next with
    | mk output after =>
      rw [advanceWithin, told] at done
      cases output with
      | text text branch =>
        rw [advance_text texts engine after text branch told]
        exact ih _ _ done
      | menu items =>
        rw [advance_menu texts engine after items told]
        exact Option.some.inj done
      | ending reason =>
        rw [advance_ending texts engine after reason told]
        exact Option.some.inj done

section Rest

variable (engine : Engine) (texts : List String) (boundary : Boundary)
  (rests : Rests engine texts boundary)

include rests

theorem rests_again : Rests engine [] { boundary with texts := [] } := by
  cases rests with
  | waiting items pending running => exact .waiting items pending running
  | ended reason ending idle => exact .ended reason ending idle

theorem rests_within (limit : Nat) :
    advanceWithin (limit + 1) texts engine = some (boundary, engine) := by
  cases rests with
  | waiting items pending running => rw [advanceWithin, next_waiting engine items running pending]
  | ended reason ending idle => rw [advanceWithin, next_ended engine reason ending]

theorem rests_respond (operation : Operation)
    (stays : (engine.respond operation).1.enters = false) :
    (engine.respond operation).2 = engine := by
  have still : (engine.isWaiting || engine.isEnded) = true := by
    cases rests with
    | waiting items pending running => simp [isWaiting, pending]
    | ended reason ending idle => simp [isEnded, ending]
  cases operation with
  | next => exact next_repeats engine still
  | choose index =>
    cases taken : engine.choose index with
    | ok chosen => simp [respond, taken, Response.enters] at stays
    | error error => simp only [respond, taken]
  | restart => cases stays

theorem rests_after (more : List Operation)
    (stays : ∀ response ∈ engine.responses more, response.enters = false) :
    engine.after more = engine := by
  induction more with
  | nil => rfl
  | cons operation rest ih =>
    rw [responses_cons] at stays
    have first := rests_respond engine texts boundary rests operation (stays _ (by simp))
    rw [first] at stays
    rw [after, List.foldl_cons, first]
    exact ih fun response member => stays response (List.mem_cons_of_mem _ member)

end Rest

-- What an engine remembers of its arrival: the phase says whether its branch was described since.
structure Recalls (scenario : Scenario) (engine : Engine) (described : List Nat) : Prop where
  sound : engine.Sound scenario
  fresh : engine.phase = .describe ↔ described = []
  lost : engine.isEnded = true → engine.phase = .describe →
    scenario.branch? engine.current = none

variable (scenario : Scenario)

theorem described_onward (responses : List Response) (response : Response)
    (stays : response.enters = false) :
    describedHere (responses ++ [response]) =
      describedHere responses ++ response.visit?.toList := by
  rw [describedHere, List.rtakeWhile_concat_pos _ _ _ (by simpa using stays),
    List.filterMap_append]
  cases found : response.visit? <;> simp [describedHere, found]

theorem described_entered (responses : List Response) (response : Response)
    (enters : response.enters = true) : describedHere (responses ++ [response]) = [] := by
  rw [describedHere, List.rtakeWhile_concat_neg _ _ _ (by simpa using enters)]
  rfl

theorem start_recalls : (start scenario).Recalls scenario [] where
  sound := start_sound scenario
  fresh := ⟨fun _ => rfl, fun _ => rfl⟩
  lost := by
    intro ended
    cases ended

theorem step_recalls (engine after : Engine) (output : Output) (described : List Nat)
    (recalls : engine.Recalls scenario described) (step : Step engine output after) :
    after.Recalls scenario (described ++ (Response.output output).visit?.toList) := by
  have sound := step_sound scenario engine after output recalls.sound step
  cases step with
  | described branch index running idle position here phase =>
    exact
      { sound := sound
        fresh := by simp [Response.visit?]
        lost := by
          intro _ describes
          cases describes }
  | ended | waiting =>
    simp only [Response.visit?, Option.toList_none, List.append_nil]
    exact recalls
  | lost running idle missing =>
    simp only [Response.visit?, Option.toList_none, List.append_nil]
    rw [recalls.sound.same] at missing
    exact { sound := sound, fresh := recalls.fresh, lost := fun _ _ => missing }
  | finished branch index running idle position here phase choices
  | offered branch index running idle position here phase choices =>
    simp only [Response.visit?, Option.toList_none, List.append_nil]
    exact
      { sound := sound
        fresh := recalls.fresh
        lost := by
          intro _ describes
          cases phase.symm.trans describes }

theorem choose_recalls (engine chosen : Engine) (index : Nat)
    (sound : engine.Sound scenario) (taken : engine.choose index = .ok chosen) :
    chosen.Recalls scenario [] := by
  have after := choose_sound scenario engine chosen index sound taken
  obtain ⟨items, item, pending, _, rfl⟩ := choose_taken engine chosen index taken
  have running := sound_running scenario engine items sound pending
  exact
    { sound := after
      fresh := ⟨fun _ => rfl, fun _ => rfl⟩
      lost := by
        intro ended
        simp [isEnded, running] at ended }

theorem respond_recalls (engine : Engine) (operation : Operation) (responses : List Response)
    (recalls : engine.Recalls scenario (describedHere responses)) :
    (engine.respond operation).2.Recalls scenario
      (describedHere (responses ++ [(engine.respond operation).1])) := by
  cases operation with
  | next =>
    rw [respond, described_onward _ _ rfl]
    exact step_recalls scenario engine _ _ _ recalls (next_step engine)
  | choose index =>
    rw [respond]
    cases taken : engine.choose index with
    | ok chosen =>
      rw [described_entered _ _ rfl]
      exact choose_recalls scenario engine chosen index recalls.sound taken
    | error error =>
      rw [described_onward _ _ rfl]
      simp only [Response.visit?, Option.toList_none, List.append_nil]
      exact recalls
  | restart =>
    rw [respond, described_entered _ _ rfl, restart, recalls.sound.same]
    exact start_recalls scenario

theorem after_recalls (history : List Operation) :
    ((start scenario).after history).Recalls scenario
      (describedHere ((start scenario).responses history)) := by
  induction history using List.reverseRecOn with
  | nil => exact start_recalls scenario
  | append_singleton history operation ih =>
    rw [after_concat, responses_append]
    exact respond_recalls scenario _ operation _ ih

theorem menu_rests (engine after : Engine) (texts : List String) (items : List MenuItem)
    (told : engine.next = (.menu items, after)) : Rests after texts (.ofMenu texts items) := by
  have step := next_step engine
  rw [told] at step
  cases step with
  | waiting _ running pending => exact .waiting items pending running
  | offered branch index running idle position here phase onward =>
    exact .waiting branch.menu rfl running

theorem ending_rests (engine after : Engine) (texts : List String) (reason : Ending)
    (sound : engine.Sound scenario) (told : engine.next = (.ending reason, after)) :
    Rests after texts (.ofEnding texts reason) := by
  have step := next_step engine
  rw [told] at step
  cases step with
  | ended _ ending => exact .ended reason ending (sound_idle scenario _ reason sound ending)
  | lost running idle missing => exact .ended _ rfl rfl
  | finished branch index running idle position here phase terminal => exact .ended _ rfl rfl

theorem step_current (engine after : Engine) (output : Output) (step : Step engine output after) :
    after.current = engine.current := by
  cases step <;> rfl

def untold (engine : Engine) (described : List Nat) : List String :=
  if described = [] then scenario.describedAt engine.current else []

theorem untold_text (engine after : Engine) (text : String) (branch : Nat) (described : List Nat)
    (recalls : engine.Recalls scenario described)
    (told : engine.next = (.text text branch, after)) :
    untold scenario engine described = [text] := by
  have step := next_step engine
  rw [told] at step
  cases step with
  | described place index running idle position here phase =>
    rw [recalls.sound.same] at here
    have found : scenario.branch? engine.current = some place :=
      (branch_found scenario _ place).mpr ⟨branch, position, here⟩
    rw [untold, if_pos (recalls.fresh.mp phase), Scenario.describedAt, found]
    rfl

theorem untold_quiet (engine after : Engine) (output : Output) (described : List Nat)
    (recalls : engine.Recalls scenario described) (step : Step engine output after)
    (quiet : (Response.output output).visit? = none) : untold scenario engine described = [] := by
  by_cases fresh : described = []
  · have phase := recalls.fresh.mpr fresh
    have missing : scenario.branch? engine.current = none := by
      cases step with
      | described => cases quiet
      | ended reason ending => exact recalls.lost (by simp [isEnded, ending]) phase
      | waiting items running pending =>
        obtain ⟨_, _, _, _, _, _, decides⟩ := recalls.sound.waiting items pending
        cases phase.symm.trans decides
      | lost running idle missing => rw [← recalls.sound.same, missing]
      | finished branch index running idle position here decides choices
      | offered branch index running idle position here decides choices =>
        cases phase.symm.trans decides
    rw [untold, if_pos fresh, Scenario.describedAt, missing]
    rfl
  · rw [untold, if_neg fresh]

theorem quiet_rests (engine after : Engine) (output : Output) (texts : List String) (limit : Nat)
    (sound : engine.Sound scenario) (told : engine.next = (output, after))
    (quiet : (Response.output output).visit? = none) :
    ∃ boundary, advanceWithin (limit + 1) texts engine = some (boundary, after) ∧
      Rests after texts boundary := by
  rw [advanceWithin, told]
  cases output with
  | text text branch => cases quiet
  | menu items => exact ⟨_, rfl, menu_rests engine after texts items told⟩
  | ending reason => exact ⟨_, rfl, ending_rests scenario engine after texts reason sound told⟩

theorem quiet_next (engine after last : Engine) (text : String) (branch : Nat) (output : Output)
    (first : engine.next = (.text text branch, after)) (second : after.next = (output, last)) :
    (Response.output output).visit? = none := by
  cases output with
  | text other index => cases (next_text first).2.symm.trans (next_text second).1
  | menu items => rfl
  | ending reason => rfl

theorem comes_to_rest (engine : Engine) (described : List Nat)
    (recalls : engine.Recalls scenario described) :
    ∃ boundary after, advanceWithin 2 [] engine = some (boundary, after) ∧
      Rests after (untold scenario engine described) boundary ∧ after.Sound scenario ∧
      after.current = engine.current := by
  have step := next_step engine
  have sound := step_sound scenario _ _ _ recalls.sound step
  have current := step_current _ _ _ step
  cases told : engine.next with
  | mk output after =>
    rw [told] at step sound current
    by_cases quiet : (Response.output output).visit? = none
    · obtain ⟨boundary, done, rests⟩ :=
        quiet_rests scenario engine after output [] 1 recalls.sound told quiet
      rw [untold_quiet scenario engine after output described recalls step quiet]
      exact ⟨boundary, after, done, rests, sound, current⟩
    · cases output with
      | menu | ending => exact absurd rfl quiet
      | text text branch =>
        have next := next_step after
        have later := step_sound scenario _ _ _ sound next
        have place := (step_current _ _ _ next).trans current
        cases second : after.next with
        | mk output last =>
          rw [second] at later place
          obtain ⟨boundary, done, rests⟩ := quiet_rests scenario after last output [text] 0 sound
            second (quiet_next engine after last text branch output told second)
          rw [untold_text scenario engine after text branch described recalls told, advanceWithin,
            told]
          exact ⟨boundary, last, done, rests, later, place⟩

structure Settles (engine : Engine) (described : List Nat) (boundary : Boundary)
    (after : Engine) : Prop where
  within : advanceWithin 2 [] engine = some (boundary, after)
  texts : boundary.texts = untold scenario engine described
  current : after.current = engine.current
  halted : after.isWaiting = !after.isEnded
  waiting : boundary.halt = .waiting ↔ after.isWaiting = true
  ended : boundary.halt = .ended ↔ after.isEnded = true
  offered : boundary.halt = .waiting → boundary.ending = none ∧ boundary.choices ≠ [] ∧
    ∃ branch, scenario.branch? engine.current = some branch ∧
      ∀ position : Nat, boundary.choices[position]? =
        branch.choices[position]?.map fun choice => (position, choice.label)
  closed : boundary.halt = .ended → boundary.choices = [] ∧ boundary.ending = after.ending
  -- whatever was asked in between, as long as no choice was taken and nothing restarted
  again : ∀ more, (∀ response ∈ after.responses more, response.enters = false) →
    (after.after more).advance = ({ boundary with texts := [] }, after)

theorem sound_offers (engine : Engine) (items : List MenuItem) (sound : engine.Sound scenario)
    (pending : engine.pending = some items) :
    items ≠ [] ∧ ∃ branch, scenario.branch? engine.current = some branch ∧ branch.Offers items := by
  obtain ⟨branch, index, position, here, onward, offers, _⟩ := sound.waiting items pending
  refine ⟨?_, branch, (branch_found scenario _ branch).mpr ⟨index, position, here⟩, offers⟩
  intro empty
  have first := offers 0
  rw [empty, List.getElem?_nil, eq_comm, Option.map_eq_none_iff, List.getElem?_eq_none_iff] at first
  exact onward (List.eq_nil_of_length_eq_zero (Nat.le_zero.mp first))

theorem every_engine_comes_to_rest (history : List Operation) :
    let engine := (start scenario).after history
    let described := describedHere ((start scenario).responses history)
    Settles scenario engine described engine.advance.1 engine.advance.2 := by
  intro engine described
  obtain ⟨boundary, after, within, rests, sound, current⟩ :=
    comes_to_rest scenario engine described (after_recalls scenario history)
  have advanced : engine.advance = (boundary, after) := within_advances 2 [] engine _ within
  have again (more : List Operation)
      (stays : ∀ response ∈ after.responses more, response.enters = false) :
      (after.after more).advance = ({ boundary with texts := [] }, after) := by
    rw [rests_after after _ boundary rests more stays]
    exact within_advances 1 [] after _ (rests_within after [] _ (rests_again after _ _ rests) 0)
  rw [advanced]
  cases rests with
  | waiting items pending running =>
    obtain ⟨full, branch, found, offers⟩ := sound_offers scenario after items sound pending
    exact
      { within := within
        texts := rfl
        current := current
        halted := by simp [isWaiting, isEnded, pending, running]
        waiting := by simp [Boundary.ofMenu, isWaiting, pending]
        ended := by simp [Boundary.ofMenu, isEnded, running]
        offered := fun _ => ⟨rfl, by simpa [Boundary.ofMenu] using full, branch, current ▸ found, by
          intro position
          rw [Boundary.ofMenu, List.getElem?_map, offers position, Option.map_map]
          rfl⟩
        closed := by
          intro halt
          cases halt
        again := again }
  | ended reason ending idle =>
    exact
      { within := within
        texts := rfl
        current := current
        halted := by simp [isWaiting, isEnded, ending, idle]
        waiting := by simp [Boundary.ofEnding, isWaiting, idle]
        ended := by simp [Boundary.ofEnding, isEnded, ending]
        offered := by
          intro halt
          cases halt
        closed := fun _ => ⟨rfl, ending.symm⟩
        again := again }

end Gamebook.Engine
