import Gamebook.Proofs.Console.Session

set_option autoImplicit false

namespace Gamebook

namespace Question

variable (question : Question) (words more : List String)

theorem longer_answered (index : Nat) (answered : question.answer words = some index) :
    question.answer (words ++ more) = some index ∧
      question.left (words ++ more) = question.left words ++ more ∧
      question.dialogue (words ++ more) = question.dialogue words := by
  induction words with
  | nil => cases answered
  | cons word rest ih =>
    rw [List.cons_append]
    cases named : itemNamed question.count word with
    | some item =>
      obtain ⟨first, left, dialogue⟩ := named_first question word rest item named
      obtain ⟨first', left', dialogue'⟩ := named_first question word (rest ++ more) item named
      rw [first', left', dialogue', left, dialogue]
      exact ⟨first.symm.trans answered, rfl, rfl⟩
    | none =>
      obtain ⟨later, left, dialogue⟩ := refused_first question word rest named
      obtain ⟨later', left', dialogue'⟩ := refused_first question word (rest ++ more) named
      rw [later] at answered
      obtain ⟨answered', left'', dialogue''⟩ := ih answered
      rw [later', left', dialogue', left, dialogue, answered', left'', dialogue'']
      exact ⟨rfl, rfl, rfl⟩

theorem longer_unanswered (unanswered : question.answer words = none) :
    ∃ rest, question.dialogue (words ++ more) = question.dialogue words ++ rest := by
  induction words with
  | nil => exact ⟨_, congrArg (· ++ _) String.append_empty.symm⟩
  | cons word words ih =>
    rw [List.cons_append]
    cases named : itemNamed question.count word with
    | some item =>
      rw [(named_first question word words item named).1] at unanswered
      cases unanswered
    | none =>
      obtain ⟨later, _, dialogue⟩ := refused_first question word words named
      rw [later] at unanswered
      obtain ⟨rest, longer⟩ := ih unanswered
      rw [(refused_first question word (words ++ more) named).2.2, dialogue, longer]
      exact ⟨rest, String.append_assoc.symm⟩

end Question

namespace Console

def Telling.Leads (first second : Telling) : Prop :=
  match first.broken with
  | none => second = first
  | some _ => ∃ rest, second.text = first.text ++ rest

theorem leads_after (told : String) (first second : Telling) (leads : first.Leads second) :
    (first.after told).Leads (second.after told) := by
  obtain ⟨broken, text⟩ := first
  cases broken with
  | none => exact congrArg (Telling.after told) leads
  | some reason =>
    obtain ⟨rest, longer⟩ := leads
    refine ⟨rest, ?_⟩
    rw [Telling.after, Telling.after, longer, String.append_assoc]

theorem leads_broken (first second : Telling) (reason : Break) (told rest : String)
    (broken : first = ⟨some reason, told⟩) (longer : second.text = told ++ rest) :
    first.Leads second := by
  subst broken
  exact ⟨rest, longer⟩

-- The recursion is on the words; each menu that the first words answer is answered alike.
theorem story_longer (scenario : Scenario) (fault : InputFault) (position : Int)
    (words more : List String) :
    (tellFrom scenario fault position words).Leads
      (tellFrom scenario fault position (words ++ more)) := by
  cases found : scenario.branch? position with
  | none =>
    rw [tell_lost scenario fault words position found, tell_lost scenario fault _ position found]
    exact rfl
  | some branch =>
    obtain ⟨index, rfl, here⟩ := (branch_found _ _ _).mp found
    by_cases terminal : branch.choices = []
    · rw [tell_ended scenario fault words branch index here terminal,
        tell_ended scenario fault _ branch index here terminal]
      exact rfl
    · cases answered : (scenario.questionAt index).answer words with
      | some pick =>
        obtain ⟨answered', left, dialogue⟩ :=
          Question.longer_answered (scenario.questionAt index) words more pick answered
        obtain ⟨choice, taken, told⟩ :=
          tell_answered scenario fault words branch index here pick answered
        obtain ⟨choice', taken', told'⟩ :=
          tell_answered scenario fault (words ++ more) branch index here pick answered'
        obtain rfl : choice = choice' := Option.some.inj (taken.symm.trans taken')
        have fewer := Question.left_fewer (scenario.questionAt index) words pick answered
        rw [told, told', left, dialogue]
        exact leads_after _ _ _ (story_longer scenario fault _ _ more)
      | none =>
        have told := tell_unanswered scenario fault words branch index here terminal answered
        obtain ⟨rest, longer⟩ :=
          Question.longer_unanswered (scenario.questionAt index) words more answered
        cases later : (scenario.questionAt index).answer (words ++ more) with
        | none =>
          refine leads_broken _ _ _ _ rest told ?_
          rw [tell_unanswered scenario fault _ branch index here terminal later, longer]
          exact String.append_assoc.symm
        | some pick =>
          obtain ⟨choice, _, onward⟩ :=
            tell_answered scenario fault _ branch index here pick later
          generalize tellFrom scenario fault choice.target.toInt _ = telling at onward
          refine leads_broken _ _ _ _ (rest ++ telling.text) told ?_
          rw [onward, Telling.after, longer]
          simp only [String.append_assoc]
termination_by words.length

theorem listing_answered (catalog : Catalog) (words more : List String) (index : Nat)
    (answered : (Question.scenario catalog.titles).answer words = some index) :
    listing catalog (words ++ more) = listing catalog words := by
  rw [listing, listing,
    (Question.longer_answered (.scenario catalog.titles) words more index answered).2.2]

theorem session_longer (catalog : Catalog) (fault : InputFault) (words more : List String) :
    (tell catalog fault words).Leads (tell catalog fault (words ++ more)) := by
  by_cases empty : catalog.scenarios = []
  · rw [tell_empty catalog fault words empty, tell_empty catalog fault _ empty]
    exact rfl
  · cases answered : (Question.scenario catalog.titles).answer words with
    | some index =>
      obtain ⟨story, found⟩ := listed_story catalog words index answered
      obtain ⟨answered', left, _⟩ :=
        Question.longer_answered (.scenario catalog.titles) words more index answered
      rw [tell_selected catalog fault words index story answered found,
        tell_selected catalog fault _ index story answered' found, left,
        listing_answered catalog words more index answered]
      exact leads_after _ _ _ (story_longer story.scenario fault 0 _ more)
    | none =>
      have told := tell_unselected catalog fault words empty answered
      obtain ⟨rest, longer⟩ :=
        Question.longer_unanswered (.scenario catalog.titles) words more answered
      have listed : listing catalog (words ++ more) = listing catalog words ++ rest := by
        rw [listing, listing, longer]
        exact String.append_assoc.symm
      cases later : (Question.scenario catalog.titles).answer (words ++ more) with
      | none =>
        refine leads_broken _ _ _ _ rest told ?_
        rw [tell_unselected catalog fault _ empty later, listed]
      | some index =>
        obtain ⟨story, found⟩ := listed_story catalog _ index later
        have onward := tell_selected catalog fault _ index story later found
        generalize tellFrom story.scenario fault 0 _ = telling at onward
        refine leads_broken _ _ _ _ (rest ++ telling.text) told ?_
        rw [onward, Telling.after, listed]
        exact String.append_assoc

theorem broken_by_input (catalog : Catalog) (fault : InputFault) (words : List String)
    (reason : Break) (broken : (tell catalog fault words).broken = some reason) :
    reason = .selecting fault ∨ reason = .playing (.shell fault) := by
  by_cases empty : catalog.scenarios = []
  · rw [tell_empty catalog fault words empty] at broken
    cases broken
  · cases answered : (Question.scenario catalog.titles).answer words with
    | none =>
      rw [tell_unselected catalog fault words empty answered] at broken
      exact .inl (Option.some.inj broken).symm
    | some index =>
      obtain ⟨story, found⟩ := listed_story catalog words index answered
      rw [tell_selected catalog fault words index story answered found] at broken
      rcases (tell_played story.scenario fault
        ((Question.scenario catalog.titles).left words)).2 with ⟨_, _, whole⟩ | ⟨_, _, refused⟩
      · cases whole.symm.trans broken
      · exact .inr (Option.some.inj (refused.symm.trans broken)).symm

theorem transcript_begins (telling : Telling) :
    ∃ rest, telling.transcript.output = telling.text ++ rest := by
  rw [Telling.transcript]
  split
  · exact ⟨"", String.append_empty.symm⟩
  · exact ⟨_, rfl⟩

def heard (catalog : Catalog) (typed : String) : Transcript :=
  session catalog (Answers.ofBytes typed.toUTF8.data.toList)

theorem heard_words (catalog : Catalog) (typed : String) :
    heard catalog typed =
      (tell catalog .closed ((Text.words typed.toList).map String.ofList)).transcript := by
  rw [heard, session_transcript, Answers.typed_words, Answers.typed_fault]

theorem only_words_count (catalog : Catalog) (first second : String) :
    (Text.words first.toList = Text.words second.toList →
      heard catalog first = heard catalog second) ∧
    (Text.words first.toList <+: Text.words second.toList →
      match (heard catalog first).broken with
      | none => heard catalog second = heard catalog first
      | some reason =>
        (reason = .selecting .closed ∨ reason = .playing (.shell .closed)) ∧
        ∃ before rest, (heard catalog first).output = before ++ (reason.report ++ "\n") ∧
          (heard catalog second).output = before ++ rest) := by
  rw [heard_words, heard_words]
  constructor
  · intro same
    rw [same]
  · rintro ⟨more, parted⟩
    rw [← parted, List.map_append]
    have leads := session_longer catalog .closed ((Text.words first.toList).map String.ofList)
      (more.map String.ofList)
    cases told : tell catalog .closed ((Text.words first.toList).map String.ofList) with
    | mk broken text =>
      rw [told] at leads
      cases broken with
      | none => exact congrArg Telling.transcript leads
      | some reason =>
        obtain ⟨rest, longer⟩ := leads
        obtain ⟨tail, ends⟩ := transcript_begins (tell catalog .closed
          ((Text.words first.toList).map String.ofList ++ more.map String.ofList))
        refine ⟨broken_by_input catalog .closed _ reason (by rw [told]), text, rest ++ tail, rfl, ?_⟩
        rw [ends, longer, String.append_assoc]

theorem manor_left_on_any_lines :
    let catalog : Catalog := ⟨[.manor], []⟩
    Text.words "1 2".toList = Text.words "1\n\n2\n".toList ∧
      heard catalog "1 2" = heard catalog "1\n\n2\n" ∧
      Text.words "1".toList <+: Text.words "1 2".toList ∧
      (heard catalog "1").broken = some (.playing (.shell .closed)) ∧
      ∃ before rest,
        (heard catalog "1").output =
          before ++ (Break.report (.playing (.shell .closed)) ++ "\n") ∧
        (heard catalog "1 2").output = before ++ rest := by
  intro catalog
  have parted : Text.words "1 2".toList = Text.words "1\n\n2\n".toList := by decide
  have begins : Text.words "1".toList <+: Text.words "1 2".toList := by decide
  have broken : (heard catalog "1").broken = some (.playing (.shell .closed)) := by
    decide +kernel
  have longer := (only_words_count catalog "1" "1 2").2 begins
  rw [broken] at longer
  exact ⟨parted, (only_words_count catalog "1 2" "1\n\n2\n").1 parted, begins, broken, longer.2⟩

end Console

end Gamebook
