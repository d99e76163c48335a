import Rollout.Run.Event
import Rollout.Text.Utf8

/-!
Asking the operator on a terminal. A question is shown, a line is read, and the question is repeated
until the line is an answer; at the end of the input the answer is no.
-/

namespace Rollout.Prompt

/-- The question before a group of a tag, groups being counted from 0. -/
def question (tag : Text) (group : Nat) : Text :=
  tag ++ " group " ++ Text.ofNat (group + 1) ++ " next. do you want to continue? [Y/n] "

/-- What is shown for a line that is no answer. -/
def complaint (line : Text) : Text := "unknown input: " ++ Text.trim line ++ ['\n']

/-- Whether a line says yes or no. Only letters of ASCII have small forms that count. -/
def verdict? (line : Text) : Option Bool :=
  let word := (Text.trim line).map Char.toLower
  if ["y".toList, "yes".toList, []].contains word then some true
  else if ["n".toList, "no".toList].contains word then some false
  else none

/-- The first line of the input with the newline that ends it, and the input after it. -/
def readLine : Bytes → Bytes × Bytes
  | [] => ([], [])
  | b :: bs => if b = 10 then ([b], bs) else let (line, rest) := readLine bs; (b :: line, rest)

theorem length_readLine_lt {input : Bytes} (h : input ≠ []) : (readLine input).2.length < input.length := by
  induction input with
  | nil => exact absurd rfl h
  | cons b bs ih =>
    rw [readLine]
    split
    · simp
    · cases bs with
      | nil => simp [readLine]
      | cons c cs => exact Nat.lt_succ_of_lt (ih (by simp))

/-- Ask until there is an answer; also gives the input that is left. -/
def ask (tag : Text) (group : Nat) (input : Bytes) : Answer × Bytes :=
  if h : input = [] then (⟨.ok false, question tag group⟩, [])
  else
    have := length_readLine_lt h
    match Utf8.decode? (readLine input).1 with
    | none => (⟨.error (.unreachable "Failed to read answer"), question tag group⟩, (readLine input).2)
    | some line => match verdict? line with
      | some b => (⟨.ok b, question tag group⟩, (readLine input).2)
      | none =>
        let (a, rest) := ask tag group (readLine input).2
        (⟨a.verdict, question tag group ++ complaint line ++ a.shown⟩, rest)
  termination_by input.length

end Rollout.Prompt
