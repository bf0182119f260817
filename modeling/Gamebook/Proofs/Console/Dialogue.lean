import Gamebook.Console

set_option autoImplicit false

namespace Gamebook

def itemNamed (count : Nat) (word : String) : Option Nat :=
  match Text.Decimal.int32? word.toList with
  | none => none
  | some number =>
    if 1 ≤ number.toInt ∧ number.toInt ≤ count then some (number.toInt - 1).toNat else none

theorem named_within (count : Nat) (word : String) (index : Nat)
    (named : itemNamed count word = some index) : index < count := by
  rw [itemNamed] at named
  split at named
  · cases named
  · rename_i number read
    by_cases within : 1 ≤ number.toInt ∧ number.toInt ≤ count
    · rw [if_pos within] at named
      obtain rfl : (number.toInt - 1).toNat = index := Option.some.inj named
      omega
    · rw [if_neg within] at named
      cases named

inductive Answer.Means (count : Nat) (word : String) : Answer → Prop where
  | item (index : Nat) (named : itemNamed count word = some index) : Means count word (.item index)
  | outOfRange (unnamed : itemNamed count word = none)
      (number : (Text.Decimal.int32? word.toList).isSome) : Means count word .outOfRange
  | notANumber (unnamed : itemNamed count word = none)
      (none : Text.Decimal.int32? word.toList = none) : Means count word .notANumber

theorem answer_means (count : Nat) (word : String) :
    Answer.Means count word (Answer.ofWord count word) := by
  rw [Answer.ofWord]
  cases read : Text.Decimal.int32? word.toList with
  | none => exact .notANumber (by simp only [itemNamed, read]) read
  | some number =>
    have named : itemNamed count word =
        if 1 ≤ number.toInt ∧ number.toInt ≤ count then some (number.toInt - 1).toNat else none := by
      simp only [itemNamed, read]
    have found : (Text.Decimal.int32? word.toList).isSome := by simp only [read, Option.isSome_some]
    cases place : number.toInt - 1 with
    | negSucc below =>
      simp only [place]
      refine .outOfRange ?_ found
      rw [named, if_neg]
      omega
    | ofNat index =>
      have position : number.toInt - 1 = (index : Int) := place
      rw [place] at named
      simp only [place]
      by_cases within : index < count
      · rw [if_pos within]
        refine .item index ?_
        rw [named, if_pos (by omega)]
        rfl
      · rw [if_neg within]
        refine .outOfRange ?_ found
        rw [named, if_neg]
        omega

namespace Question

def refuses (question : Question) (word : String) : Bool := (itemNamed question.count word).isNone

def complaint (question : Question) (word : String) : String :=
  if (Text.Decimal.int32? word.toList).isSome then question.outOfRange else question.notANumber

def answer (question : Question) (words : List String) : Option Nat :=
  words.findSome? (itemNamed question.count)

def left (question : Question) (words : List String) : List String :=
  (words.dropWhile question.refuses).tail

def dialogue (question : Question) (words : List String) : String :=
  question.ask ++ String.join ((words.takeWhile question.refuses).map fun word =>
    question.complaint word ++ "\n" ++ question.ask)

variable (question : Question) (word : String) (rest : List String)

theorem named_first (index : Nat) (named : itemNamed question.count word = some index) :
    question.answer (word :: rest) = some index ∧ question.left (word :: rest) = rest ∧
      question.dialogue (word :: rest) = question.ask := by
  have taken : question.refuses word = false := by simp only [refuses, named, Option.isNone_some]
  refine ⟨?_, ?_, ?_⟩
  · rw [answer, List.findSome?_cons, named]
  · rw [left, List.dropWhile_cons, taken]
    rfl
  · rw [dialogue, List.takeWhile_cons, taken]
    exact String.append_empty

theorem refused_first (unnamed : itemNamed question.count word = none) :
    question.answer (word :: rest) = question.answer rest ∧
      question.left (word :: rest) = question.left rest ∧
      question.dialogue (word :: rest) =
        question.ask ++ (question.complaint word ++ "\n") ++ question.dialogue rest := by
  have refused : question.refuses word = true := by simp only [refuses, unnamed, Option.isNone_none]
  refine ⟨?_, ?_, ?_⟩
  · rw [answer, List.findSome?_cons, unnamed]
    rfl
  · rw [left, List.dropWhile_cons, refused]
    rfl
  · rw [dialogue, List.takeWhile_cons, refused]
    simp only [if_true, List.map_cons, String.join_cons, dialogue, String.append_assoc]

theorem answer_within (words : List String) (index : Nat)
    (answered : question.answer words = some index) : index < question.count := by
  obtain ⟨word, _, named⟩ := List.exists_of_findSome?_eq_some answered
  exact named_within question.count word index named

theorem left_fewer (words : List String) (index : Nat)
    (answered : question.answer words = some index) :
    (question.left words).length < words.length := by
  induction words with
  | nil => cases answered
  | cons word rest ih =>
    cases named : itemNamed question.count word with
    | some item =>
      rw [(named_first question word rest item named).2.1]
      exact Nat.lt_succ_self _
    | none =>
      obtain ⟨same, left, _⟩ := refused_first question word rest named
      rw [same] at answered
      rw [left]
      exact Nat.lt_succ_of_lt (ih answered)

end Question

namespace Console

variable (question : Question) (console : Console) (after : Answers) (word : String)

theorem ask_fault (fault : InputFault) (heard : console.answers.next = (.error fault, after)) :
    console.ask question =
      (.error fault, ({ console with answers := after }).write question.ask) := by
  rw [ask]
  split
  · rename_i heard'
    cases heard.symm.trans heard'
    rfl
  · rename_i heard'
    cases heard.symm.trans heard'

theorem ask_named (index : Nat) (heard : console.answers.next = (.ok word, after))
    (named : itemNamed question.count word = some index) :
    console.ask question =
      (.ok index, ({ console with answers := after }).write question.ask) := by
  rw [ask]
  split
  · rename_i heard'
    cases heard.symm.trans heard'
  · rename_i heard'
    cases heard.symm.trans heard'
    have means := answer_means question.count word
    generalize Answer.ofWord question.count word = answer at means
    cases means with
    | item other same =>
      cases named.symm.trans same
      rfl
    | outOfRange unnamed _ | notANumber unnamed _ => cases named.symm.trans unnamed

theorem ask_again (heard : console.answers.next = (.ok word, after))
    (unnamed : itemNamed question.count word = none) :
    console.ask question =
      ask question ((({ console with answers := after }).write question.ask).say
        (question.complaint word)) := by
  rw [ask]
  split
  · rename_i heard'
    cases heard.symm.trans heard'
  · rename_i heard'
    cases heard.symm.trans heard'
    have means := answer_means question.count word
    generalize Answer.ofWord question.count word = answer at means
    cases means with
    | item other named => cases unnamed.symm.trans named
    | outOfRange _ number => rw [Question.complaint, if_pos number]
    | notANumber _ none => simp only [Question.complaint, none, Option.isSome_none]; rfl

-- The induction is on the words still to come; each one that is refused is gone when the question
-- is put again.
theorem ask_answered (words : List String) (index : Nat) (coming : console.answers.words = words)
    (answered : question.answer words = some index) :
    ∃ left, console.ask question =
        (.ok index, ⟨left, console.output ++ question.dialogue words⟩) ∧
      left.words = question.left words ∧ left.fault = console.answers.fault := by
  induction words generalizing console with
  | nil => cases answered
  | cons word rest ih =>
    obtain ⟨after, heard, remain, fault⟩ := Answers.next_word _ word rest coming
    cases named : itemNamed question.count word with
    | some item =>
      obtain ⟨first, left, dialogue⟩ := Question.named_first question word rest item named
      obtain rfl : item = index := Option.some.inj (first.symm.trans answered)
      rw [ask_named question console after word item heard named, left, dialogue]
      exact ⟨after, rfl, remain, fault⟩
    | none =>
      obtain ⟨later, left, dialogue⟩ := Question.refused_first question word rest named
      rw [later] at answered
      obtain ⟨last, asked, remains, same⟩ := ih
        ((({ console with answers := after }).write question.ask).say (question.complaint word))
        remain answered
      rw [ask_again question console after word heard named, asked, left, dialogue]
      refine ⟨last, ?_, remains, same.trans fault⟩
      simp only [say, write, String.append_assoc]

theorem ask_unanswered (words : List String) (coming : console.answers.words = words)
    (unanswered : question.answer words = none) :
    ∃ left, console.ask question =
      (.error console.answers.fault, ⟨left, console.output ++ question.dialogue words⟩) := by
  induction words generalizing console with
  | nil =>
    obtain ⟨after, faulty⟩ := Answers.next_fault _ coming
    rw [ask_fault question console after _ faulty, Question.dialogue, List.takeWhile_nil]
    exact ⟨after, by simp [write]⟩
  | cons word rest ih =>
    obtain ⟨after, heard, remain, fault⟩ := Answers.next_word _ word rest coming
    cases named : itemNamed question.count word with
    | some item =>
      rw [(Question.named_first question word rest item named).1] at unanswered
      cases unanswered
    | none =>
      obtain ⟨later, _, dialogue⟩ := Question.refused_first question word rest named
      rw [later] at unanswered
      obtain ⟨last, asked⟩ := ih
        ((({ console with answers := after }).write question.ask).say (question.complaint word))
        remain unanswered
      rw [ask_again question console after word heard named, asked, dialogue, ← fault]
      refine ⟨last, ?_⟩
      simp only [say, write, String.append_assoc]

end Console

end Gamebook
