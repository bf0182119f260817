import Gamebook.Proofs.Console.Input
import Gamebook.Proofs.Console.Spelled
import Gamebook.Proofs.Playthrough.Route

set_option autoImplicit false

namespace Gamebook.Console

def reports (catalog : Catalog) : String :=
  String.join (catalog.diagnostics.map fun found => found.reason ++ "\n")

def listing (catalog : Catalog) (words : List String) : String :=
  reports catalog ++ "Available scenarios:\n" ++ numbered catalog.titles ++
    (Question.scenario catalog.titles).dialogue words

def tell (catalog : Catalog) (fault : InputFault) (words : List String) : Telling :=
  let question := Question.scenario catalog.titles
  if catalog.scenarios = [] then ⟨none, reports catalog ++ "No scenarios found.\n"⟩
  else
    match (question.answer words).bind fun index => catalog.scenarios[index]? with
    | none => ⟨some (.selecting fault), listing catalog words⟩
    | some story =>
      (tellFrom story.scenario fault 0 (question.left words)).after (listing catalog words)

def Telling.transcript (telling : Telling) : Transcript :=
  match telling.broken with
  | none => ⟨.returned 0, none, telling.text⟩
  | some reason => ⟨.returned 0, some reason, telling.text ++ (reason.report ++ "\n")⟩

section Tell

variable (catalog : Catalog) (fault : InputFault) (words : List String)

theorem tell_empty (empty : catalog.scenarios = []) :
    tell catalog fault words = ⟨none, reports catalog ++ "No scenarios found.\n"⟩ := by
  rw [tell, if_pos empty]

theorem tell_unselected (stocked : catalog.scenarios ≠ [])
    (unanswered : (Question.scenario catalog.titles).answer words = none) :
    tell catalog fault words = ⟨some (.selecting fault), listing catalog words⟩ := by
  rw [tell, if_neg stocked, unanswered, Option.bind_none]

theorem tell_selected (index : Nat) (story : Story)
    (answered : (Question.scenario catalog.titles).answer words = some index)
    (found : catalog.scenarios[index]? = some story) :
    tell catalog fault words =
      (tellFrom story.scenario fault 0 ((Question.scenario catalog.titles).left words)).after
        (listing catalog words) := by
  have stocked : catalog.scenarios ≠ [] := List.ne_nil_of_mem (List.mem_of_getElem? found)
  rw [tell, if_neg stocked, answered, Option.bind_some, found]

end Tell

theorem say_all (found : List Diagnostic) (console : Console) :
    found.foldl (fun console diagnostic => console.say diagnostic.reason) console =
      console.write (String.join (found.map fun diagnostic => diagnostic.reason ++ "\n")) := by
  induction found generalizing console with
  | nil => simp [write]
  | cons diagnostic rest ih =>
    rw [List.foldl_cons, ih, List.map_cons, String.join_cons]
    simp only [say, write, String.append_assoc]

theorem finish_transcript (console : Console) (text : String) (same : console.output = text) :
    console.finish = Telling.transcript ⟨none, text⟩ := by
  rw [finish, same]
  rfl

theorem break_transcript (console : Console) (reason : Break) (text : String)
    (same : console.output = text) :
    console.breakOff reason = Telling.transcript ⟨some reason, text⟩ := by
  rw [breakOff, say, write, same]
  rfl

theorem scenario_transcript (scenario : Scenario) (console : Console) :
    console.playScenario scenario =
      ((tellFrom scenario console.answers.fault 0 console.answers.words).after
        console.output).transcript := by
  obtain ⟨result, engine, left, played, broken⟩ := play_tells scenario console.answers.words 0 []
    console (Shell.callBound patience (.start scenario) console) (fun _ => rfl) rfl (Nat.le_refl _)
  have same : Shell.play patience (.start scenario) console = ⟨result, engine, _⟩ :=
    Option.get_of_eq_some _ played
  rw [playScenario, same]
  cases result with
  | ok outcome =>
    rw [Telling.after, ← broken]
    exact finish_transcript _ _ rfl
  | error stop =>
    rw [Telling.after, ← broken]
    exact break_transcript _ _ _ rfl

theorem listed_story (catalog : Catalog) (words : List String) (index : Nat)
    (answered : (Question.scenario catalog.titles).answer words = some index) :
    ∃ story, catalog.scenarios[index]? = some story := by
  have within := Question.answer_within _ words index answered
  rw [Question.scenario, Catalog.titles, List.length_map] at within
  exact ⟨_, List.getElem?_eq_getElem within⟩

theorem session_transcript (catalog : Catalog) (answers : Answers) :
    session catalog answers = (tell catalog answers.fault answers.words).transcript := by
  rw [session, say_all]
  by_cases empty : catalog.scenarios = []
  · have none : catalog.isEmpty = true := List.isEmpty_iff.mpr empty
    rw [if_pos none, tell_empty catalog _ _ empty]
    refine finish_transcript _ _ ?_
    simp [say, write, reports]
  · have stocked : ¬ catalog.isEmpty = true := mt List.isEmpty_iff.mp empty
    rw [if_neg stocked, selectAndPlay]
    cases answered : (Question.scenario catalog.titles).answer answers.words with
    | none =>
      obtain ⟨left, asked⟩ := ask_unanswered (.scenario catalog.titles) (showTitles catalog.titles
        (write (reports catalog) { answers })) answers.words rfl answered
      rw [reports] at asked
      rw [asked, tell_unselected catalog _ _ empty answered]
      refine break_transcript _ _ _ ?_
      simp [showTitles, say, write, listing, reports, String.append_assoc]
    | some index =>
      obtain ⟨story, found⟩ := listed_story catalog answers.words index answered
      obtain ⟨left, asked, remain, fault⟩ := ask_answered (.scenario catalog.titles) (showTitles
        catalog.titles (write (reports catalog) { answers })) answers.words index rfl answered
      rw [reports] at asked
      rw [asked, tell_selected catalog _ _ index story answered found]
      simp only [found]
      rw [scenario_transcript, remain, fault]
      simp [showTitles, say, write, listing, reports, String.append_assoc]

-- No pick is out of range, so a story can only end or run out of words.
theorem heard_stop (scenario : Scenario) (position : Int) (words : List String) (index : Nat) :
    (scenario.heardFrom position words).stop ≠ .noSuchChoice index := by
  obtain ⟨final, reached⟩ := scenario.picks_reach position words
  rw [Scenario.heardFrom, Scenario.walk_stop scenario position _ final reached,
    Scenario.stopAt.eq_def]
  cases scenario.endingAt final with
  | some reason => simp
  | none => simp

theorem tell_played (scenario : Scenario) (fault : InputFault) (words : List String) :
    let played := Script.play {} (scenario.picksOf 0 words) (Engine.start scenario)
    Shown played.shell.calls (scenario.picksOf 0 words) words
        (tellFrom scenario fault 0 words).text ∧
      ((∃ outcome, played.result = .ok outcome ∧ (tellFrom scenario fault 0 words).broken = none) ∨
        ∃ refusal, played.result = .error (.shell refusal) ∧
          (tellFrom scenario fault 0 words).broken = some (.playing (.shell fault))) := by
  dsimp only
  obtain ⟨_, calls, result⟩ := Script.play_start scenario (scenario.picksOf 0 words)
  have shown := story_shown scenario fault 0 words
  have possible := heard_stop scenario 0 words
  rw [Scenario.heardFrom] at possible shown
  rw [Scenario.walk] at calls result
  rw [calls, result, Walk.result]
  refine ⟨shown, ?_⟩
  rw [tellFrom, Scenario.heardFrom]
  cases stop : (scenario.walkFrom 0 (scenario.picksOf 0 words)).stop with
  | ended reason => exact .inl ⟨_, rfl, rfl⟩
  | exhausted => exact .inr ⟨_, rfl, rfl⟩
  | noSuchChoice pick => exact absurd stop (possible pick)

theorem transcript_returned (telling : Telling) : telling.transcript.exit = .returned 0 := by
  rw [Telling.transcript]
  split <;> rfl

theorem transcript_whole (telling : Telling) (whole : telling.broken = none) :
    telling.transcript = ⟨.returned 0, none, telling.text⟩ := by
  rw [Telling.transcript, whole]

theorem transcript_broken (telling : Telling) (reason : Break)
    (broken : telling.broken = some reason) :
    telling.transcript = ⟨.returned 0, some reason, telling.text ++ (reason.report ++ "\n")⟩ := by
  rw [Telling.transcript, broken]

theorem listing_spelled (catalog : Catalog) (words : List String) :
    listing catalog words =
      String.join (catalog.diagnostics.map fun found => found.reason ++ "\n") ++
        "Available scenarios:\n" ++
        itemLines 1 (catalog.scenarios.map fun story => story.scenario.title) ++
        (Question.scenario catalog.titles).dialogue words := by
  rw [listing, reports, menu_item_lines]
  rfl

-- The words of the input pick a scenario and then its choices. All that is written is the reports,
-- the menus with the answers to them, and the story that a playthrough with these picks tells.
theorem session_follows_play (catalog : Catalog) (input : List UInt8) :
    let answers := Answers.ofBytes input
    let transcript := session catalog answers
    let reports := String.join (catalog.diagnostics.map fun found => found.reason ++ "\n")
    let fault := faultText answers.fault
    transcript.exit = .returned 0 ∧
    Heard input answers.words answers.fault ∧
    (answers.fault = .closed ↔ ∀ line ∈ Text.feedLines Answers.lineFeed input,
      (String.fromUTF8? line.toByteArray).isSome) ∧
    if catalog.scenarios = [] then
      transcript.broken = none ∧ transcript.output = reports ++ "No scenarios found.\n"
    else
      ∃ menu answer,
        Asked "Select a scenario: " "Invalid selection. Try again."
          "Invalid input. Please enter a number." catalog.scenarios.length answers.words menu
          answer ∧
        let listed := reports ++ "Available scenarios:\n" ++
          itemLines 1 (catalog.scenarios.map fun story => story.scenario.title) ++ menu
        match answer with
        | none =>
          transcript.broken = some (.selecting answers.fault) ∧
          transcript.output = listed ++ ("An unexpected error occurred: " ++ fault ++ "\n")
        | some (index, left) =>
          ∃ story picks shown, catalog.scenarios[index]? = some story ∧
            let played := Script.play {} picks (Engine.start story.scenario)
            Shown played.shell.calls picks left shown ∧
            (∃ final, story.scenario.Reaches 0 picks final) ∧
            match played.result with
            | .ok _ => transcript.broken = none ∧ transcript.output = listed ++ shown
            | .error (.shell _) =>
              transcript.broken = some (.playing (.shell answers.fault)) ∧
              transcript.output = listed ++ shown ++
                ("An error occurred while processing the scenario: " ++ fault ++ "\n")
            | .error (.engine _) => False := by
  dsimp only
  rw [session_transcript]
  refine ⟨transcript_returned _, input_heard _, Answers.fault_closed input, ?_⟩
  generalize (Answers.ofBytes input).words = words
  generalize (Answers.ofBytes input).fault = fault
  rw [← message_spelled]
  by_cases empty : catalog.scenarios = []
  · rw [if_pos empty, tell_empty catalog _ _ empty]
    exact ⟨rfl, rfl⟩
  rw [if_neg empty]
  have asked := dialogue_asked (.scenario catalog.titles) words
  have count : (Question.scenario catalog.titles).count = catalog.scenarios.length :=
    List.length_map _
  rw [count] at asked
  refine ⟨_, _, asked, ?_⟩
  rw [← listing_spelled]
  cases answered : (Question.scenario catalog.titles).answer words with
  | none =>
    rw [tell_unselected catalog _ _ empty answered, transcript_broken _ _ rfl, Option.map_none]
    exact ⟨rfl, rfl⟩
  | some index =>
    obtain ⟨story, found⟩ := listed_story catalog _ index answered
    rw [tell_selected catalog _ _ index story answered found, Option.map_some]
    generalize (Question.scenario catalog.titles).left words = left
    obtain ⟨shown, played⟩ := tell_played story.scenario fault left
    refine ⟨story, _, _, found, shown, story.scenario.picks_reach 0 _, ?_⟩
    rcases played with ⟨outcome, result, whole⟩ | ⟨refusal, result, broken⟩
    · have ended := transcript_whole
        ((tellFrom story.scenario fault 0 left).after (listing catalog words)) whole
      rw [result, ended]
      exact ⟨rfl, rfl⟩
    · have refused := transcript_broken
        ((tellFrom story.scenario fault 0 left).after (listing catalog words)) _ broken
      rw [result, refused]
      exact ⟨rfl, rfl⟩

end Gamebook.Console
