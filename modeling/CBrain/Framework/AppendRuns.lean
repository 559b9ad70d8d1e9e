import CBrain.Framework.AppendLog

/-! # Many records appended to a log

    A log takes a record that is new or that repeats the record under its key.
    Records with different keys are all taken exactly when they fit the log
    (`Fits`): where a key is on file the digests agree, and the ids of the
    others are free.  What was taken once is taken again, and nothing is added.
-/

section append_runs

variable {R K : Type} [DecidableEq K] {w : Identified R K}

namespace AppendLog

/-- The log takes the record: it is new, or it repeats one. -/
def Takes (l : AppendLog w) (r : R) : Prop :=
  match l.verdict r with
  | .fresh | .retried _ => True
  | .mismatched | .taken => False

theorem takes_of_key {l : AppendLog w} {r x : R} (h : l.ofKey (w.key r) = some x) :
    l.Takes r ↔ w.digest x = w.digest r := by
  unfold Takes verdict
  rw [h]
  by_cases hdigest : w.digest x = w.digest r <;> simp [hdigest]

theorem takes_of_free {l : AppendLog w} {r : R} (h : l.ofKey (w.key r) = none) :
    l.Takes r ↔ l.ofId (w.id r) = none := by
  unfold Takes verdict
  rw [h]
  cases l.ofId (w.id r) <;> simp

/-- The log takes the records one after the other. -/
def TakesAll (l : AppendLog w) : List R → Prop
  | [] => True
  | r :: rs => l.Takes r ∧ (l.append r).TakesAll rs

/-- The records whose keys are not on file. -/
def new (l : AppendLog w) (rs : List R) : List R := rs.filter fun r => l.ofKey (w.key r) = none

/-- The records fit the log: the ones whose keys are on file agree with what is
    there, and the others bring ids of their own. -/
structure Fits (l : AppendLog w) (rs : List R) : Prop where
  agree : ∀ r ∈ rs, ∀ x ∈ l.records, w.key x = w.key r → w.digest x = w.digest r
  free : ∀ r ∈ l.new rs, ∀ x ∈ l.records, w.id x ≠ w.id r
  apart : ((l.new rs).map w.id).Nodup

theorem new_cons {l : AppendLog w} {r : R} {rs : List R} :
    l.new (r :: rs) = if l.ofKey (w.key r) = none then r :: l.new rs else l.new rs := by
  by_cases h : l.ofKey (w.key r) = none <;> simp [new, h]

/-- A record that repeats one leaves the question to the others. -/
theorem fits_cons_of_key {l : AppendLog w} {r x : R} {rs : List R}
    (h : l.ofKey (w.key r) = some x) :
    l.Fits (r :: rs) ↔ w.digest x = w.digest r ∧ l.Fits rs := by
  have hnew : l.new (r :: rs) = l.new rs := by
    rw [new_cons, if_neg]
    rw [h]
    exact Option.some_ne_none x
  obtain ⟨hx, hkey⟩ := ofKey_eq_some h
  constructor
  · intro hfits
    refine ⟨hfits.agree r List.mem_cons_self x hx hkey, ?_, ?_, ?_⟩
    · exact fun s hs => hfits.agree s (List.mem_cons_of_mem r hs)
    · exact hnew ▸ hfits.free
    · exact hnew ▸ hfits.apart
  · rintro ⟨hdigest, hfits⟩
    refine ⟨?_, hnew.symm ▸ hfits.free, hnew.symm ▸ hfits.apart⟩
    intro s hs y hy hys
    rcases List.mem_cons.mp hs with rfl | hs
    · -- the record under a key is the only one
      have hsame : l.ofKey (w.key y) = some y := ofKey_of_mem hy
      rw [hys, h] at hsame
      obtain rfl := Option.some.inj hsame
      exact hdigest
    · exact hfits.agree s hs y hy hys

/-- A new record is on file for the others. -/
theorem fits_cons_of_free {l : AppendLog w} {r : R} {rs : List R}
    (hkey : l.ofKey (w.key r) = none) (hfresh : w.key r ∉ rs.map w.key) :
    l.Fits (r :: rs) ↔ l.ofId (w.id r) = none ∧ (l.append r).Fits rs := by
  have hnew : l.new (r :: rs) = r :: l.new rs := by rw [new_cons, if_pos hkey]
  have hother : ∀ s ∈ rs, w.key r ≠ w.key s :=
    fun s hs heq => hfresh (heq ▸ List.mem_map_of_mem hs)
  have hnone := find?_isNone.mp hkey
  have hfree (hid : l.ofId (w.id r) = none) : (l.append r).Fits rs ↔
      (∀ s ∈ rs, ∀ x ∈ l.records, w.key x = w.key s → w.digest x = w.digest s) ∧
        (∀ s ∈ l.new rs, (∀ x ∈ l.records, w.id x ≠ w.id s) ∧ w.id r ≠ w.id s) ∧
          ((l.new rs).map w.id).Nodup := by
    have hrecords := records_append_of_free hkey hid
    have hsame : (l.append r).new rs = l.new rs := by
      refine List.filter_congr fun s hs => ?_
      have hiff : (l.append r).ofKey (w.key s) = none ↔ l.ofKey (w.key s) = none := by
        rw [ofKey, ofKey, hrecords, find?_isNone, find?_isNone, List.map_append, List.mem_append]
        simp only [List.map_cons, List.map_nil, List.mem_singleton, not_or]
        exact and_iff_left (hother s hs).symm
      exact decide_eq_decide.mpr hiff
    constructor
    · intro hfits
      refine ⟨?_, ?_, hsame ▸ hfits.apart⟩
      · intro s hs x hx
        exact hfits.agree s hs x (hrecords ▸ List.mem_append_left [r] hx)
      · intro s hs
        rw [← hsame] at hs
        have hids := hfits.free s hs
        rw [hrecords] at hids
        exact ⟨fun x hx => hids x (List.mem_append_left [r] hx),
          hids r (List.mem_append_right _ (List.mem_singleton_self r))⟩
    · rintro ⟨hagree, hids, hnodup⟩
      refine ⟨?_, ?_, hsame.symm ▸ hnodup⟩
      · intro s hs x hx heq
        rw [hrecords] at hx
        rcases List.mem_append.mp hx with hx | hx
        · exact hagree s hs x hx heq
        · obtain rfl := List.mem_singleton.mp hx
          exact absurd heq (hother s hs)
      · intro s hs x hx
        rw [hsame] at hs
        rw [hrecords] at hx
        rcases List.mem_append.mp hx with hx | hx
        · exact (hids s hs).1 x hx
        · obtain rfl := List.mem_singleton.mp hx
          exact (hids s hs).2
  constructor
  · intro hfits
    have hid : l.ofId (w.id r) = none := by
      refine find?_isNone.mpr fun hmem => ?_
      obtain ⟨x, hx, hxr⟩ := List.mem_map.mp hmem
      exact hfits.free r (hnew ▸ List.mem_cons_self) x hx hxr
    have hapart := hfits.apart
    rw [hnew, List.map_cons, List.nodup_cons] at hapart
    refine ⟨hid, (hfree hid).mpr ⟨?_, ?_, hapart.2⟩⟩
    · exact fun s hs => hfits.agree s (List.mem_cons_of_mem r hs)
    · intro s hs
      refine ⟨hfits.free s (hnew ▸ List.mem_cons_of_mem r hs), fun heq => hapart.1 ?_⟩
      exact heq ▸ List.mem_map_of_mem hs
  · rintro ⟨hid, hfits⟩
    obtain ⟨hagree, hids, hnodup⟩ := (hfree hid).mp hfits
    refine ⟨?_, ?_, ?_⟩
    · intro s hs x hx heq
      rcases List.mem_cons.mp hs with rfl | hs
      · exact absurd (heq ▸ List.mem_map_of_mem hx) hnone
      · exact hagree s hs x hx heq
    · intro s hs x hx
      rw [hnew] at hs
      rcases List.mem_cons.mp hs with rfl | hs
      · intro heq
        exact find?_isNone.mp hid (heq ▸ List.mem_map_of_mem hx)
      · exact (hids s hs).1 x hx
    · rw [hnew, List.map_cons, List.nodup_cons]
      refine ⟨fun hmem => ?_, hnodup⟩
      obtain ⟨s, hs, heq⟩ := List.mem_map.mp hmem
      exact (hids s hs).2 heq.symm

/-- **Run lemma**: records with different keys are taken exactly when they fit. -/
theorem takesAll_iff_fits {l : AppendLog w} {rs : List R} (hkeys : (rs.map w.key).Nodup) :
    l.TakesAll rs ↔ l.Fits rs := by
  induction rs generalizing l with
  | nil => exact ⟨fun _ => ⟨by simp, by simp [new], by simp [new]⟩, fun _ => trivial⟩
  | cons r rs ih =>
    rw [List.map_cons, List.nodup_cons] at hkeys
    show l.Takes r ∧ (l.append r).TakesAll rs ↔ _
    rw [ih hkeys.2]
    cases hkey : l.ofKey (w.key r) with
    | some x => rw [takes_of_key hkey, append_of_key hkey, fits_cons_of_key hkey]
    | none => rw [takes_of_free hkey, fits_cons_of_free hkey hkeys.1]

/-- A key stays on file, with its record. -/
theorem ofKey_append {l : AppendLog w} {k : K} {x : R} (r : R) (h : l.ofKey k = some x) :
    (l.append r).ofKey k = some x := by
  unfold ofKey at h ⊢
  rcases records_append l r with heq | heq
  · rw [heq, h]
  · rw [heq, List.find?_append, h]
    rfl

theorem ofKey_appendAll {l : AppendLog w} {k : K} {x : R} (rs : List R) (h : l.ofKey k = some x) :
    (l.appendAll rs).ofKey k = some x := by
  induction rs generalizing l with
  | nil => exact h
  | cons r rs ih => exact ih (ofKey_append r h)

/-- A record that is taken is on file afterwards, or the one that it repeats. -/
theorem onFile_of_takes {l : AppendLog w} {r : R} (h : l.Takes r) :
    ∃ x, (l.append r).ofKey (w.key r) = some x ∧ w.digest x = w.digest r := by
  cases hkey : l.ofKey (w.key r) with
  | some x =>
    rw [append_of_key hkey]
    exact ⟨x, hkey, (takes_of_key hkey).mp h⟩
  | none =>
    have hrecords := records_append_of_free hkey ((takes_of_free hkey).mp h)
    refine ⟨r, ofKey_of_mem ?_, rfl⟩
    rw [hrecords]
    exact List.mem_append_right _ (List.mem_singleton_self r)

/-- What is on file under the keys of the records says the same as they do. -/
def OnFile (l : AppendLog w) (rs : List R) : Prop :=
  ∀ r ∈ rs, ∃ x, l.ofKey (w.key r) = some x ∧ w.digest x = w.digest r

/-- **Run lemma**: what is taken is on file afterwards. -/
theorem onFile_of_takesAll {l : AppendLog w} {rs : List R} (h : l.TakesAll rs) :
    (l.appendAll rs).OnFile rs := by
  induction rs generalizing l with
  | nil => exact fun r hr => nomatch hr
  | cons r rs ih =>
    obtain ⟨hr, hrs⟩ := h
    intro s hs
    rcases List.mem_cons.mp hs with rfl | hs
    · obtain ⟨x, hx, hdigest⟩ := onFile_of_takes hr
      exact ⟨x, ofKey_appendAll rs hx, hdigest⟩
    · exact ih hrs s hs

/-- **Run lemma**: what is on file is taken, and adds nothing. -/
theorem again_of_onFile {l : AppendLog w} {rs : List R} (h : l.OnFile rs) :
    l.TakesAll rs ∧ l.appendAll rs = l := by
  induction rs with
  | nil => exact ⟨trivial, rfl⟩
  | cons r rs ih =>
    obtain ⟨x, hx, hdigest⟩ := h r List.mem_cons_self
    have hsame : l.append r = l := append_of_key hx
    obtain ⟨htakes, hall⟩ := ih fun s hs => h s (List.mem_cons_of_mem r hs)
    refine ⟨⟨(takes_of_key hx).mpr hdigest, ?_⟩, ?_⟩
    · rw [hsame]
      exact htakes
    · show (l.append r).appendAll rs = l
      rw [hsame]
      exact hall

end AppendLog

end append_runs
