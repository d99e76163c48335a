import Rollout.Prompt
import Rollout.Proofs.Utf8

/-!
Questions that are asked one after another use up the input line by line. Every question takes the
lines up to the first that is an answer or no text, and the next question goes on with the line
after it (`answered_askAll`); at the end of the input every answer is no.
-/

namespace Rollout.Prompt

/-! ### The lines of the input -/

/-- The input is cut after every newline; what no newline ends is a line if there is any of it. -/
def inputLines : Bytes → List Bytes
  | [] => []
  | b :: bs =>
    if b = 10 then [b] :: inputLines bs
    else match inputLines bs with
      | [] => [[b]]
      | line :: lines => (b :: line) :: lines

theorem flatten_inputLines (input : Bytes) : (inputLines input).flatten = input := by
  induction input with
  | nil => rfl
  | cons b bs ih =>
    rw [inputLines]
    split_ifs
    · rw [List.flatten_cons, ih, List.singleton_append]
    · cases h : inputLines bs with
      | nil =>
        rw [← ih, h]
        rfl
      | cons line lines =>
        rw [← ih, h]
        rfl

theorem inputLines_readLine {input : Bytes} (h : input ≠ []) :
    inputLines input = (readLine input).1 :: inputLines (readLine input).2 := by
  induction input with
  | nil => exact absurd rfl h
  | cons b bs ih =>
    rw [inputLines, readLine]
    split_ifs with hb
    · rw [hb]
    · cases bs with
      | nil => rfl
      | cons c cs => rw [ih (List.cons_ne_nil c cs)]

/-! ### Questions and answers -/

/-- The trimmed line in small letters. No character outside of ASCII has a small form that stands in
a yes or a no. -/
def word (line : Text) : Text := (Text.trim line).map Char.toLower

/-- The line says neither yes nor no. -/
def Unclear (line : Text) : Prop := word line ∉ ["", "y", "yes", "n", "no"].map String.toList

/-- How a question ends: what it says, with the line that ends it, if there is one. -/
inductive Ends (left : List Bytes) : Except Failure Bool → List Bytes → Prop
  | yes {line : Text} (h : word line ∈ ["", "y", "yes"].map String.toList) :
      Ends left (.ok true) [Utf8.encode line]
  | no {line : Text} (h : word line ∈ ["n", "no"].map String.toList) :
      Ends left (.ok false) [Utf8.encode line]
  | malformed {line : Bytes} (h : ∀ t, Utf8.encode t ≠ line) :
      Ends left (.error (.unreachable "Failed to read answer")) [line]
  | exhausted (h : left = []) : Ends left (.ok false) []

/-- The question is shown before each line that it reads, and each unclear line is complained about;
the lines that it does not read are left. -/
def Asked (tag : Text) (group : Nat) (lines : List Bytes) (a : Answer) (left : List Bytes) : Prop :=
  let prompt : Text :=
    tag ++ " group " ++ Text.ofNat (group + 1) ++ " next. do you want to continue? [Y/n] "
  ∃ (unclear : List Text) (last : List Bytes),
    lines = unclear.map Utf8.encode ++ last ++ left ∧ (∀ line ∈ unclear, Unclear line) ∧
      Ends left a.verdict last ∧
      a.shown = unclear.flatMap
        (fun line => (prompt ++ ("unknown input: " ++ Text.trim line ++ ['\n']) : Text)) ++ prompt

variable {tag : Text} {group : Nat} {line : Text} {a : Answer} {lines left : List Bytes}

theorem Asked.again (hline : Unclear line) (h : Asked tag group lines a left) :
    Asked tag group (Utf8.encode line :: lines)
      ⟨a.verdict, question tag group ++ complaint line ++ a.shown⟩ left := by
  obtain ⟨unclear, last, hlines, hunclear, hends, hshown⟩ := h
  refine ⟨line :: unclear, last, by rw [hlines]; rfl,
    List.forall_mem_cons.mpr ⟨hline, hunclear⟩, hends, ?_⟩
  rw [List.flatMap_cons, List.append_assoc _ (List.flatMap _ _), ← hshown]
  rfl

theorem Ends.asked {verdict : Except Failure Bool} {last : List Bytes}
    (h : Ends left verdict last) :
    Asked tag group (last ++ left) ⟨verdict, question tag group⟩ left :=
  ⟨[], last, rfl, nofun, h, rfl⟩

theorem ends_of_verdict? {b : Bool} (h : verdict? line = some b) :
    Ends left (.ok b) [Utf8.encode line] := by
  rw [verdict?] at h
  split_ifs at h with hyes hno
  · cases h
    refine .yes ?_
    simpa [word, or_assoc, or_comm, or_left_comm] using hyes
  · cases h
    refine .no ?_
    simpa [word] using hno

theorem unclear_of_verdict? (h : verdict? line = none) : Unclear line := by
  rw [verdict?] at h
  split_ifs at h with hyes hno
  simp [Unclear, word] at *
  tauto

/-- One question takes lines from the start of the input. -/
theorem asked_ask (tag : Text) (group : Nat) (input : Bytes) :
    Asked tag group (inputLines input) (ask tag group input).1
      (inputLines (ask tag group input).2) := by
  fun_induction ask tag group input with
  | case1 => exact (Ends.exhausted rfl).asked
  | case2 input h _ hd =>
    rw [inputLines_readLine h]
    exact (Ends.malformed fun t ht => by simp [← ht, Utf8.decode?_eq_some_iff.mpr rfl] at hd).asked
  | case3 input h _ line hd b hb =>
    rw [inputLines_readLine h, Utf8.decode?_eq_some_iff.mp hd]
    exact (ends_of_verdict? hb).asked
  | case4 input h _ line hd hb a rest ha ih =>
    rw [inputLines_readLine h, Utf8.decode?_eq_some_iff.mp hd]
    rw [ha] at ih
    exact ih.again (unclear_of_verdict? hb)

/-! ### One question after another -/

/-- The answers to questions that are asked one after another, and the input that is left. -/
def askAll : List (Text × Nat) → Bytes → List Answer × Bytes
  | [], input => ([], input)
  | (tag, group) :: questions, input =>
    let (a, rest) := ask tag group input
    let (as, rest) := askAll questions rest
    (a :: as, rest)

/-- Each question begins with the line after those of the question before it. -/
inductive Answered : List (Text × Nat) → List Bytes → List Answer → List Bytes → Prop
  | nil {lines : List Bytes} : Answered [] lines [] lines
  | cons {tag : Text} {group : Nat} {questions : List (Text × Nat)} {lines middle left : List Bytes}
      {a : Answer} {as : List Answer} (first : Asked tag group lines a middle)
      (others : Answered questions middle as left) :
      Answered ((tag, group) :: questions) lines (a :: as) left

theorem ask_nil (tag : Text) (group : Nat) :
    ask tag group [] = (⟨.ok false, question tag group⟩, []) := by
  rw [ask, dif_pos rfl]

theorem verdict_of_mem_askAll_nil {questions : List (Text × Nat)} :
    ∀ a ∈ (askAll questions []).1, a.verdict = .ok false := by
  induction questions with
  | nil => nofun
  | cons q questions ih =>
    simp only [askAll, ask_nil]
    exact List.forall_mem_cons.mpr ⟨rfl, ih⟩

theorem askAll_append (earlier later : List (Text × Nat)) (input : Bytes) :
    askAll (earlier ++ later) input =
      ((askAll earlier input).1 ++ (askAll later (askAll earlier input).2).1,
        (askAll later (askAll earlier input).2).2) := by
  induction earlier generalizing input with
  | nil => rfl
  | cons q earlier ih => simp only [List.cons_append, askAll, ih]

/-- The questions are answered from consecutive stretches of the lines of the input, and once
nothing is left of it, every answer is no. -/
theorem answered_askAll (questions : List (Text × Nat)) (input : Bytes) :
    Answered questions (inputLines input) (askAll questions input).1
        (inputLines (askAll questions input).2) ∧
      ∀ earlier later, questions = earlier ++ later → (askAll earlier input).2 = [] →
        ∃ as, (askAll questions input).1 = (askAll earlier input).1 ++ as ∧
          ∀ a ∈ as, a.verdict = .ok false := by
  refine ⟨?_, ?_⟩
  · induction questions generalizing input with
    | nil => exact .nil
    | cons q questions ih => exact .cons (asked_ask q.1 q.2 input) (ih _)
  · rintro earlier later rfl h
    refine ⟨(askAll later []).1, ?_, verdict_of_mem_askAll_nil⟩
    rw [askAll_append, h]

end Rollout.Prompt
