import Precedence.Regex.Search

namespace Precedence

/-- Whether no group took anything beyond a place. -/
def Captures.Within (captures : Captures) (pos : Nat) : Prop :=
  ∀ group ∈ captures.taken, group.2.2 ≤ pos

theorem Captures.within_start {pos : Nat} : Captures.start.Within pos := by
  intro group member
  cases member

theorem Captures.Within.mono {captures : Captures} {pos further : Nat}
    (within : captures.Within pos) (le : pos ≤ further) : captures.Within further :=
  fun group member => Nat.le_trans (within group member) le

theorem Captures.Within.enter {captures : Captures} {pos : Nat} (within : captures.Within pos)
    (name : String) : (captures.enter name pos).Within pos :=
  within

theorem Captures.Within.leave {captures : Captures} {pos : Nat} (within : captures.Within pos)
    (name : String) : (captures.leave name pos).Within pos := by
  intro group member
  rcases List.mem_cons.mp member with rfl | older
  · exact Nat.le_refl pos
  · exact within group (List.mem_filter.mp older).1

namespace Program

variable {program : Program}

/-- The attempts that are followed from a place reach no further than that place. -/
theorem follow_within {place : Place} {steps : Nat} {tried : Array Bool}
    {found waiting : List Attempt}
    (reached : ∀ attempt ∈ found, attempt.captures.Within place.pos)
    (waits : ∀ attempt ∈ waiting, attempt.captures.Within place.pos) :
    ∀ attempt ∈ program.follow place steps tried found waiting,
      attempt.captures.Within place.pos := by
  fun_induction Program.follow program place steps tried found waiting with
  | case1 tried found waiting => exact reached
  | case2 steps tried found => exact reached
  | case3 steps tried found attempt waiting again ih =>
    exact ih reached (List.forall_mem_cons.mp waits).2
  | case4 steps tried found attempt waiting fresh tried' none ih =>
    exact ih reached (List.forall_mem_cons.mp waits).2
  | case5 steps tried found attempt waiting fresh tried' accepts ih =>
    obtain ⟨here, others⟩ := List.forall_mem_cons.mp waits
    exact ih (List.forall_mem_cons.mpr ⟨here, reached⟩) others
  | case6 steps tried found attempt waiting fresh tried' chars next takes ih =>
    obtain ⟨here, others⟩ := List.forall_mem_cons.mp waits
    exact ih (List.forall_mem_cons.mpr ⟨here, reached⟩) others
  | case7 steps tried found attempt waiting fresh tried' condition next checks further ih =>
    obtain ⟨here, others⟩ := List.forall_mem_cons.mp waits
    refine ih reached fun other member => ?_
    by_cases holds : condition.holds place.before? place.rest.head? = true
    · rw [show further = _ from if_pos holds] at member
      rcases List.mem_cons.mp member with rfl | older
      · exact here
      · exact others other older
    · rw [show further = _ from if_neg holds] at member
      exact others other member
  | case8 steps tried found attempt waiting fresh tried' name next enters entered ih =>
    obtain ⟨here, others⟩ := List.forall_mem_cons.mp waits
    exact ih reached (List.forall_mem_cons.mpr ⟨here.enter name, others⟩)
  | case9 steps tried found attempt waiting fresh tried' name next leaves left ih =>
    obtain ⟨here, others⟩ := List.forall_mem_cons.mp waits
    exact ih reached (List.forall_mem_cons.mpr ⟨here.leave name, others⟩)
  | case10 steps tried found attempt waiting fresh tried' first second forks ih =>
    obtain ⟨here, others⟩ := List.forall_mem_cons.mp waits
    exact ih reached (List.forall_mem_cons.mpr ⟨here, List.forall_mem_cons.mpr ⟨here, others⟩⟩)

theorem settle_within {place : Place} {attempts : List Attempt}
    (within : ∀ attempt ∈ attempts, attempt.captures.Within place.pos) :
    ∀ attempt ∈ program.settle place attempts, attempt.captures.Within place.pos := by
  intro attempt member
  exact follow_within (fun _ none => absurd none List.not_mem_nil) within attempt
    (List.mem_reverse.mp member)

theorem captures_of_take? {c : Char} {attempt after : Attempt}
    (takes : program.take? c attempt = some after) : after.captures = attempt.captures := by
  unfold take? at takes
  split at takes
  · split at takes
    · cases takes
      rfl
    · cases takes
  · cases takes

theorem ending?_within {pos : Nat} {settled : List Attempt}
    (within : ∀ attempt ∈ settled, attempt.captures.Within pos) {ending : Ending}
    (ends : program.ending? pos settled = some ending) : ending.captures.Within ending.stop := by
  obtain ⟨attempt, found, rfl⟩ := Option.map_eq_some_iff.mp ends
  exact within attempt (List.mem_of_find?_eq_some found)

theorem better_within {pos : Nat} {settled : List Attempt} {best? : Option Ending}
    (within : ∀ attempt ∈ settled, attempt.captures.Within pos)
    (best : ∀ ending ∈ best?, ending.captures.Within ending.stop) :
    ∀ ending ∈ (program.ending? pos settled).or best?, ending.captures.Within ending.stop := by
  intro ending chosen
  rcases Option.or_eq_some_iff.mp chosen with here | ⟨_, older⟩
  · exact ending?_within within here
  · exact best ending older

/-- What the groups took lies in front of the place where a match ends. -/
theorem run_within {pos : Nat} {before? : Option Char} {best? : Option Ending}
    {attempts : List Attempt} {text : List Char} {ending : Ending}
    (within : ∀ attempt ∈ attempts, attempt.captures.Within pos)
    (best : ∀ ending ∈ best?, ending.captures.Within ending.stop)
    (ran : program.run pos before? best? attempts text = some ending) :
    ending.captures.Within ending.stop := by
  induction text generalizing pos before? best? attempts with
  | nil => exact better_within (@settle_within program ⟨pos, before?, []⟩ _ within) best ending ran
  | cons c rest ih =>
    have settled := @settle_within program ⟨pos, before?, c :: rest⟩ attempts within
    have better := @better_within program pos _ _ settled best
    rw [run] at ran
    split at ran
    · exact better ending ran
    · refine ih (fun after member => ?_) better ran
      obtain ⟨attempt, live, takes⟩ := List.mem_filterMap.mp member
      rw [captures_of_take? takes]
      exact (settled attempt (List.takeWhile_subset _ live)).mono (Nat.le_succ pos)

theorem searchFrom?_within {pos : Nat} {before? : Option Char} {text : List Char} {found : Match}
    (searched : program.searchFrom? pos before? text = some found) :
    found.captures.Within found.stop := by
  fun_induction searchFrom? program pos before? text with
  | case1 pos before? text ending ran =>
    cases searched
    refine run_within (fun attempt member => ?_) (fun _ none => by cases none) ran
    obtain rfl := List.mem_singleton.mp member
    exact Captures.within_start
  | case2 => cases searched
  | case3 pos before? c rest missed ih => exact ih searched

/-- A program that asks first for the start of the text finds nothing behind it. -/
theorem run_of_textStart {next pos : Nat} {c : Char} {best? : Option Ending} {text : List Char}
    (held : program.states[program.start]? = some (.check .textStart next)) :
    program.run pos (some c) best? [⟨program.start, .start⟩] text = best? := by
  have settles : ∀ rest, program.settle ⟨pos, some c, rest⟩ [⟨program.start, .start⟩] = [] := by
    intro rest
    have known : program.start < program.states.size := (Array.getElem?_eq_some_iff.mp held).1
    have untried : (Array.replicate program.states.size false).getD program.start true = false := by
      simp [known]
    rw [settle, List.length_singleton, show 1 + 2 * program.states.size + 1 =
      (2 * program.states.size + 1) + 1 by omega, follow]
    simp [untried, held, Boundary.holds, follow]
  cases text with
  | nil => simp [run, settles, ending?]
  | cons d rest => simp [run, settles, ending?]

theorem searchFrom?_of_textStart {next pos : Nat} {c : Char} {text : List Char}
    (held : program.states[program.start]? = some (.check .textStart next)) :
    program.searchFrom? pos (some c) text = none := by
  induction text generalizing pos c with
  | nil => simp [searchFrom?, run_of_textStart held]
  | cons d rest ih => simp [searchFrom?, run_of_textStart held, ih]

theorem start_of_search? {next : Nat} {text : List Char} {found : Match}
    (held : program.states[program.start]? = some (.check .textStart next))
    (searched : program.search? text = some found) : found.start = 0 := by
  unfold search? searchFrom? at searched
  split at searched
  · cases searched
    rfl
  · split at searched
    · cases searched
    · cases (searchFrom?_of_textStart held).symm.trans searched

end Program

end Precedence
