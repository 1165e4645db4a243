/-
The first candidate of each key.

A document may list an object more than once. The candidates are walked
in order with the keys that occurred before, and one is kept if its key
is new. `keptAfter` is that walk behind any keys; an induction along it
says which candidates are kept (`mem_keptAfter`): those whose key is
neither among these keys nor that of an earlier candidate. So a document
keeps the first candidate of each key and no other (`mem_firsts`,
`count_keys_firsts`). Another walk may follow the first; it keeps what it
would keep on its own, but for the keys of the first (`firsts_append`).
-/
import Mathlib.Data.List.Nodup
import KbDocs.Export.Assembly

namespace KbDocs.Export

/-- The candidates that are kept behind some keys, in order. -/
def keptAfter (seen : List (String × String)) (cs : List Candidate) : List Candidate :=
  (markRepeats seen cs).filterMap fun (c, repeated) => if repeated then none else some c

theorem firsts_eq_keptAfter (cs : List Candidate) : firsts cs = keptAfter [] cs := rfl

section Walk

variable {seen : List (String × String)} {c : Candidate} {cs : List Candidate}

theorem keptAfter_cons_of_mem (h : c.key ∈ seen) :
    keptAfter seen (c :: cs) = keptAfter (c.key :: seen) cs := by
  rw [keptAfter, markRepeats, List.contains_iff_mem.mpr h]
  rfl

theorem keptAfter_cons_of_not_mem (h : c.key ∉ seen) :
    keptAfter seen (c :: cs) = c :: keptAfter (c.key :: seen) cs := by
  have hnew : seen.contains c.key = false := by simpa using h
  rw [keptAfter, markRepeats, hnew]
  rfl

/-- A candidate is kept if its key is not among those before the walk and
not that of an earlier candidate. -/
theorem mem_keptAfter :
    c ∈ keptAfter seen cs
      ↔ c.key ∉ seen ∧ ∃ pre post, cs = pre ++ c :: post ∧ ∀ e ∈ pre, e.key ≠ c.key := by
  induction cs generalizing seen with
  | nil => simp [keptAfter, markRepeats]
  | cons d cs ih =>
      -- the candidate comes behind `d`, under another key than `d`
      have hbehind : c ∈ keptAfter (d.key :: seen) cs
          ↔ c.key ∉ seen ∧ d.key ≠ c.key
            ∧ ∃ pre post, cs = pre ++ c :: post ∧ ∀ e ∈ pre, e.key ≠ c.key := by
        rw [ih, List.mem_cons, not_or, and_assoc, and_left_comm, ne_eq, eq_comm]
      have hsplit : (∃ pre post, d :: cs = pre ++ c :: post ∧ ∀ e ∈ pre, e.key ≠ c.key)
          ↔ d = c ∨ (d.key ≠ c.key
            ∧ ∃ pre post, cs = pre ++ c :: post ∧ ∀ e ∈ pre, e.key ≠ c.key) := by
        constructor
        · rintro ⟨pre, post, heq, hpre⟩
          cases pre with
          | nil => exact .inl (List.cons.inj heq).1
          | cons e pre =>
              obtain ⟨rfl, rfl⟩ := List.cons.inj heq
              obtain ⟨hd, hpre⟩ := List.forall_mem_cons.mp hpre
              exact .inr ⟨hd, pre, post, rfl, hpre⟩
        · rintro (rfl | ⟨hd, pre, post, rfl, hpre⟩)
          · exact ⟨[], cs, rfl, by simp⟩
          · exact ⟨d :: pre, post, rfl, List.forall_mem_cons.mpr ⟨hd, hpre⟩⟩
      rw [hsplit]
      by_cases hd : d.key ∈ seen
      · rw [keptAfter_cons_of_mem hd, hbehind]
        constructor
        · rintro ⟨hc, hne, hrest⟩
          exact ⟨hc, .inr ⟨hne, hrest⟩⟩
        · rintro ⟨hc, rfl | hrest⟩
          · exact absurd hd hc
          · exact ⟨hc, hrest⟩
      · rw [keptAfter_cons_of_not_mem hd, List.mem_cons, hbehind]
        constructor
        · rintro (rfl | ⟨hc, hrest⟩)
          · exact ⟨hd, .inl rfl⟩
          · exact ⟨hc, .inr hrest⟩
        · rintro ⟨hc, rfl | hrest⟩
          · exact .inl rfl
          · exact .inr ⟨hc, hrest⟩

/-- No two candidates are kept under one key. -/
theorem nodup_keys_keptAfter (seen : List (String × String)) (cs : List Candidate) :
    ((keptAfter seen cs).map (·.key)).Nodup := by
  induction cs generalizing seen with
  | nil => exact List.nodup_nil
  | cons d cs ih =>
      by_cases hd : d.key ∈ seen
      · rw [keptAfter_cons_of_mem hd]
        exact ih _
      · rw [keptAfter_cons_of_not_mem hd, List.map_cons]
        refine List.nodup_cons.mpr ⟨?_, ih _⟩
        rintro hmem
        obtain ⟨e, he, hkey⟩ := List.mem_map.mp hmem
        have hnew := (mem_keptAfter.mp he).1
        exact hnew (by rw [hkey]; exact List.mem_cons_self)

/-- What is kept stands in its order. -/
theorem keptAfter_sublist (seen : List (String × String)) (cs : List Candidate) :
    (keptAfter seen cs).Sublist cs := by
  induction cs generalizing seen with
  | nil => exact .slnil
  | cons d cs ih =>
      by_cases hd : d.key ∈ seen
      · rw [keptAfter_cons_of_mem hd]
        exact (ih _).cons d
      · rw [keptAfter_cons_of_not_mem hd]
        exact (ih _).cons_cons d

/-- The walk goes on behind the keys of what it has passed. -/
theorem keptAfter_append (seen : List (String × String)) (as bs : List Candidate) :
    keptAfter seen (as ++ bs)
      = keptAfter seen as ++ keptAfter ((as.map (·.key)).reverse ++ seen) bs := by
  induction as generalizing seen with
  | nil => rfl
  | cons d as ih =>
      rw [List.cons_append, List.map_cons, List.reverse_cons, List.append_assoc,
        List.singleton_append]
      by_cases hd : d.key ∈ seen
      · rw [keptAfter_cons_of_mem hd, keptAfter_cons_of_mem hd, ih]
      · rw [keptAfter_cons_of_not_mem hd, keptAfter_cons_of_not_mem hd, ih, List.cons_append]

/-- More keys before the walk only take away the candidates that have
them. -/
theorem keptAfter_of_mem_iff {more : List (String × String)} {seen' : List (String × String)}
    (h : ∀ key, key ∈ seen' ↔ key ∈ more ∨ key ∈ seen) (cs : List Candidate) :
    keptAfter seen' cs = (keptAfter seen cs).filter (·.key ∉ more) := by
  induction cs generalizing seen seen' with
  | nil => rfl
  | cons d cs ih =>
      have hnext : ∀ key, key ∈ d.key :: seen' ↔ key ∈ more ∨ key ∈ d.key :: seen := by
        intro key
        rw [List.mem_cons, List.mem_cons, h, or_left_comm]
      by_cases hseen : d.key ∈ seen
      · rw [keptAfter_cons_of_mem hseen, keptAfter_cons_of_mem ((h d.key).mpr (.inr hseen)),
          ih hnext]
      rw [keptAfter_cons_of_not_mem hseen, List.filter_cons]
      by_cases hmore : d.key ∈ more
      · rw [keptAfter_cons_of_mem ((h d.key).mpr (.inl hmore)), ih hnext,
          if_neg (by simpa using hmore)]
      · have hnew : d.key ∉ seen' := by
          rw [h, not_or]
          exact ⟨hmore, hseen⟩
        rw [keptAfter_cons_of_not_mem hnew, ih hnext, if_pos (by simpa using hmore)]

end Walk

/-- Of two lists of candidates one after another, the first keeps what it
keeps on its own, and the second what has a new key. -/
theorem firsts_append (as bs : List Candidate) :
    firsts (as ++ bs) = firsts as ++ (firsts bs).filter (·.key ∉ as.map (·.key)) := by
  have hpassed : ∀ key, key ∈ (as.map (·.key)).reverse ++ []
      ↔ key ∈ as.map (·.key) ∨ key ∈ ([] : List (String × String)) := by
    intro key
    rw [List.append_nil, List.mem_reverse]
    simp
  rw [firsts_eq_keptAfter, firsts_eq_keptAfter, firsts_eq_keptAfter, keptAfter_append,
    keptAfter_of_mem_iff hpassed]

theorem firsts_sublist (cs : List Candidate) : (firsts cs).Sublist cs :=
  keptAfter_sublist [] cs

/-- A candidate of a document is kept exactly if no earlier one has its
key. -/
theorem mem_firsts {cs : List Candidate} {c : Candidate} :
    c ∈ firsts cs ↔ ∃ pre post, cs = pre ++ c :: post ∧ ∀ e ∈ pre, e.key ≠ c.key := by
  rw [firsts_eq_keptAfter, mem_keptAfter]
  simp

/-- Every key of a document has a candidate that is kept. -/
theorem mem_keys_firsts {cs : List Candidate} {key : String × String} :
    key ∈ (firsts cs).map (·.key) ↔ key ∈ cs.map (·.key) := by
  constructor
  · intro h
    obtain ⟨c, hc, rfl⟩ := List.mem_map.mp h
    obtain ⟨pre, post, rfl, -⟩ := mem_firsts.mp hc
    exact List.mem_map_of_mem (List.mem_append_right pre List.mem_cons_self)
  · intro h
    obtain ⟨d, hd, rfl⟩ := List.mem_map.mp h
    -- the first candidate with the key of `d`
    obtain ⟨c, hc⟩ : ∃ c, cs.find? (·.key == d.key) = some c := by
      rw [← Option.isSome_iff_exists, List.find?_isSome]
      exact ⟨d, hd, beq_self_eq_true _⟩
    obtain ⟨hkey, pre, post, hsplit, hpre⟩ := List.find?_eq_some_iff_append.mp hc
    rw [beq_iff_eq] at hkey
    refine List.mem_map.mpr ⟨c, mem_firsts.mpr ⟨pre, post, hsplit, fun e he => ?_⟩, hkey⟩
    have hne := hpre e he
    rw [hkey]
    simpa using hne

/-- A key that a document has is kept once, and no other key is. -/
theorem count_keys_firsts (cs : List Candidate) (key : String × String) :
    ((firsts cs).map (·.key)).count key = if key ∈ cs.map (·.key) then 1 else 0 := by
  split
  case isTrue h =>
    exact List.count_eq_one_of_mem (nodup_keys_keptAfter [] cs) (mem_keys_firsts.mpr h)
  case isFalse h =>
    exact List.count_eq_zero_of_not_mem fun hkept => h (mem_keys_firsts.mp hkept)

end KbDocs.Export
