import Precedence.Regex.Search

namespace Precedence

namespace Program

/-- An attempt that either ends here or takes one more character of a kind and is where it was
takes the longest run of such characters. -/
theorem run_of_loop {program : Program} {chars : Char → Bool} {loop waiting : Attempt}
    {ended : Nat → Attempt}
    (settles : ∀ place : Place, program.settle place [loop] = [waiting, ended place.pos])
    (waits : program.accepts waiting = false)
    (accepts : ∀ pos, program.accepts (ended pos) = true)
    (takes : ∀ c, program.take? c waiting = if chars c then some loop else none)
    (pos : Nat) (before? : Option Char) (best? : Option Ending) (text : List Char) :
    program.run pos before? best? [loop] text =
      some ⟨pos + (text.takeWhile chars).length,
        (ended (pos + (text.takeWhile chars).length)).captures⟩ := by
  induction text generalizing pos before? best? with
  | nil =>
    simp [run, ending?, settles, waits, accepts]
  | cons c rest ih =>
    have ending : program.ending? pos (program.settle ⟨pos, before?, c :: rest⟩ [loop]) =
        some ⟨pos, (ended pos).captures⟩ := by
      simp [ending?, settles, waits, accepts]
    have live : ((program.settle ⟨pos, before?, c :: rest⟩ [loop]).takeWhile
        (!program.accepts ·)).filterMap (program.take? c) = if chars c then [loop] else [] := by
      rw [settles]
      by_cases more : chars c = true
      · simp [waits, accepts, takes, more]
      · simp [waits, accepts, takes, more]
    rw [run, ending, live]
    by_cases more : chars c = true
    · have further : pos + (rest.takeWhile chars).length + 1 =
          pos + 1 + (rest.takeWhile chars).length := by omega
      simp [more, ih, ← Nat.add_assoc, further]
    · simp [more]

/-- An attempt that can only end here ends here. -/
theorem run_of_ended {program : Program} {attempt ended : Attempt} {pos : Nat}
    {before? : Option Char} {text : List Char}
    (settles : program.settle ⟨pos, before?, text⟩ [attempt] = [ended])
    (accepts : program.accepts ended = true) (best? : Option Ending) :
    program.run pos before? best? [attempt] text = some ⟨pos, ended.captures⟩ := by
  cases text with
  | nil => simp [run, ending?, settles, accepts]
  | cons c rest => simp [run, ending?, settles, accepts]

end Program

end Precedence
