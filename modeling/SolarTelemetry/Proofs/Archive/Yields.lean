import SolarTelemetry.Proofs.Archive.Pages

/-!
# Daily yields of a series

Every two neighbours in a series of samples give a yield if the later was taken after the earlier
and within two days, and else nothing. So the yields of a series in which all neighbours are that
close add up to what its ends differ by, and a series can be cut anywhere at the cost of the one
pair that is cut.
-/

namespace SolarTelemetry.Archive

/-- The total is not below zero and a signed word of sixty-four bits holds it. -/
def YieldSample.InRange (s : YieldSample) : Prop := 0 ≤ s.total ∧ s.total < 2 ^ 63

/-- The second sample was taken after the first, by no more than forty-eight hours. -/
def Close (earlier later : YieldSample) : Prop :=
  0 < (later.time.toNat : Int) - earlier.time.toNat ∧
    (later.time.toNat : Int) - earlier.time.toNat ≤ 172800

instance : DecidableRel Close := fun _ _ => inferInstanceAs (Decidable (_ ∧ _))

/-- The yields of those pairs that are close. -/
def yieldsOf (pairs : List (YieldSample × YieldSample)) : List DailyYield :=
  (pairs.filter fun p => Close p.1 p.2).map fun p => ⟨p.2.time, p.2.total - p.1.total⟩

theorem yieldsOf_singleton (earlier later : YieldSample) :
    yieldsOf [(earlier, later)] =
      if Close earlier later then [⟨later.time, later.total - earlier.total⟩] else [] := by
  by_cases close : Close earlier later <;> simp [yieldsOf, close]

theorem yieldsOf_append (pairs others : List (YieldSample × YieldSample)) :
    yieldsOf (pairs ++ others) = yieldsOf pairs ++ yieldsOf others := by
  simp only [yieldsOf, List.filter_append, List.map_append]

/-- Neighbours in a list are neighbours in one part of it, or the last of the first part and the
first of the second. -/
theorem zip_tail_append {α : Type} (xs ys : List α) :
    (xs ++ ys).zip (xs ++ ys).tail =
      xs.zip xs.tail ++ xs.getLast?.toList.zip ys.head?.toList ++ ys.zip ys.tail := by
  induction xs with
  | nil => rfl
  | cons x xs ih =>
    cases xs with
    | nil => cases ys <;> rfl
    | cons x' xs =>
      rw [List.getLast?_cons_cons]
      exact congrArg ((x, x') :: ·) ih

section

variable {earlier later : YieldSample} {samples : List YieldSample}

theorem difference_inRange (first : earlier.InRange) (second : later.InRange) :
    -2 ^ 63 ≤ later.total - earlier.total ∧ later.total - earlier.total < 2 ^ 63 := by
  obtain ⟨positive, small⟩ := first
  obtain ⟨positive', small'⟩ := second
  omega

theorem yieldBetween?_eq (first : earlier.InRange) (second : later.InRange) :
    (yieldBetween? earlier later).toList = yieldsOf [(earlier, later)] := by
  obtain ⟨low, high⟩ := difference_inRange first second
  have unchanged : (later.total - earlier.total).bmod (2 ^ 64) = later.total - earlier.total :=
    Int.bmod_eq_of_le (by omega) (by omega)
  have close : earlier.time < later.time ∧
      later.time.toNat - earlier.time.toNat ≤ maxGap ↔ Close earlier later := by
    have gap : maxGap = 172800 := rfl
    rw [UInt32.lt_iff_toNat_lt, gap, Close]
    omega
  rw [yieldBetween?, yieldsOf_singleton, unchanged]
  by_cases near : Close earlier later
  · rw [if_pos (close.mpr near), if_pos near]
    rfl
  · rw [if_neg fun near' => near (close.mp near'), if_neg near]
    rfl

theorem dailyYields_eq (inRange : ∀ s ∈ samples, s.InRange) :
    dailyYields samples = yieldsOf (samples.zip samples.tail) := by
  induction samples with
  | nil => rfl
  | cons earlier samples ih =>
    cases samples with
    | nil => rfl
    | cons later rest =>
      have first := inRange earlier List.mem_cons_self
      have second := inRange later (List.mem_cons_of_mem _ List.mem_cons_self)
      have others := ih fun s later => inRange s (List.mem_cons_of_mem _ later)
      rw [dailyYields, yieldBetween?_eq first second, others, ← yieldsOf_append]
      rfl

/-- What the yields of a series add up to where no neighbours are too far apart. -/
theorem sum_energy (inRange : ∀ s ∈ samples, s.InRange)
    (close : ∀ p ∈ samples.zip samples.tail, Close p.1 p.2)
    {first last : YieldSample} (opens : samples.head? = some first)
    (ends : samples.getLast? = some last) :
    ((dailyYields samples).map (·.energy)).sum = last.total - first.total := by
  rw [dailyYields_eq inRange]
  clear inRange
  induction samples generalizing first with
  | nil => cases opens
  | cons earlier samples ih =>
    obtain rfl := Option.some.inj opens
    cases samples with
    | nil =>
      obtain rfl := Option.some.inj ends
      exact (Int.sub_self _).symm
    | cons later rest =>
      have near : Close earlier later := close (earlier, later) List.mem_cons_self
      have onward := fun p listed => close p (List.mem_cons_of_mem (earlier, later) listed)
      have others := ih onward rfl (List.getLast?_cons_cons ▸ ends)
      have split : yieldsOf ((earlier :: later :: rest).zip (later :: rest)) =
          yieldsOf [(earlier, later)] ++ yieldsOf ((later :: rest).zip rest) :=
        yieldsOf_append [(earlier, later)] _
      simp only [List.tail_cons] at others ⊢
      rw [split, yieldsOf_singleton, if_pos near, List.map_append, List.sum_append, others]
      simp only [List.map_cons, List.map_nil, List.sum_cons, List.sum_nil]
      omega

/-- A page holds no total that is out of range. -/
theorem inRange_of_mem_entriesOf {kind : Kind} {page : Bytes} {s : YieldSample}
    (listed : .sample s ∈ entriesOf kind page) : s.InRange := by
  rw [entriesOf_eq_filterMap] at listed
  obtain ⟨i, within, found⟩ := List.mem_filterMap.mp listed
  have size := length_stretch (List.mem_range.mp within)
  obtain ⟨-, fills, small, -⟩ := (entryOf?_eq_some_iff size _).mp found
  obtain ⟨w, -, total⟩ := Option.map_eq_some_iff.mp fills.total
  exact ⟨by omega, small⟩

end

/-- The yields of a series of samples are those of its neighbours that are close, and no difference
overflows. If all are close the yields add up to the difference of the ends; a series in two parts
gives the yields of the first, of the pair between them and of the second. The samples of a page
are never out of range. -/
theorem dailyYields_neighbours (samples : List YieldSample)
    (inRange : ∀ s ∈ samples, s.InRange) :
    dailyYields samples = yieldsOf (samples.zip samples.tail) ∧
      (∀ p ∈ samples.zip samples.tail,
        -2 ^ 63 ≤ p.2.total - p.1.total ∧ p.2.total - p.1.total < 2 ^ 63) ∧
      ((∀ p ∈ samples.zip samples.tail, Close p.1 p.2) → ∀ first last,
        samples.head? = some first → samples.getLast? = some last →
        ((dailyYields samples).map (·.energy)).sum = last.total - first.total) ∧
      (∀ xs ys, samples = xs ++ ys →
        dailyYields samples =
          dailyYields xs ++ yieldsOf (xs.getLast?.toList.zip ys.head?.toList) ++
            dailyYields ys) ∧
      ∀ kind page s, .sample s ∈ entriesOf kind page → s.InRange := by
  refine ⟨dailyYields_eq inRange, ?_, fun close _ _ => sum_energy inRange close, ?_,
    fun _ _ _ => inRange_of_mem_entriesOf⟩
  · intro p listed
    obtain ⟨first, second⟩ := List.of_mem_zip listed
    exact difference_inRange (inRange _ first) (inRange _ (List.mem_of_mem_tail second))
  · rintro xs ys rfl
    have former := fun s (listed : s ∈ xs) => inRange s (List.mem_append_left ys listed)
    have latter := fun s (listed : s ∈ ys) => inRange s (List.mem_append_right xs listed)
    rw [dailyYields_eq inRange, dailyYields_eq former, dailyYields_eq latter, zip_tail_append,
      yieldsOf_append, yieldsOf_append]

/-- Two samples that are forty-eight hours apart, and a third that is one second later than that. -/
theorem dailyYields_neighbours_apart :
    let first : YieldSample := ⟨1700000000, 100⟩
    let second : YieldSample := ⟨1700172800, 2 ^ 63 - 1⟩
    let third : YieldSample := ⟨1700345601, 0⟩
    (∀ s ∈ [first, second, third], s.InRange) ∧ (∀ p ∈ [(first, second)], Close p.1 p.2) ∧
      dailyYields [first, second, third] = [⟨1700172800, 2 ^ 63 - 101⟩] ∧
      ((dailyYields [first, second]).map (·.energy)).sum = second.total - first.total ∧
      dailyYields [first, second, third] = dailyYields [first, second] := by
  intro first second third
  have inRange : ∀ s ∈ [first, second, third], s.InRange := by
    simp [YieldSample.InRange, first, second, third]
  have former : ∀ s ∈ [first, second], s.InRange := fun s listed =>
    inRange s (List.mem_append_left [third] listed)
  have close : ∀ p ∈ [(first, second)], Close p.1 p.2 := by decide
  obtain ⟨yields, -, -, cut, -⟩ := dailyYields_neighbours [first, second, third] inRange
  obtain ⟨-, -, sum, -, -⟩ := dailyYields_neighbours [first, second] former
  refine ⟨inRange, close, yields.trans (by decide), sum close first second rfl rfl, ?_⟩
  rw [cut [first, second] [third] rfl]
  have apart : yieldsOf [(second, third)] = [] := by decide
  exact (List.append_nil _).trans ((congrArg _ apart).trans (List.append_nil _))

end SolarTelemetry.Archive
