import Mathlib.Data.List.Dedup
import Mathlib.Data.List.Nodup
import CBrain.Knowledge.Chunking

/-! # Diverse selection

    What `select_diverse` returns: the best chunks of the sources in their order,
    then the chunks that waited, cut at the limit. -/

namespace CBrain.Knowledge

/-! ## Section 1: The best chunks of the sources -/

/-- The chunks before which no chunk of their source stands, and none of the
    seen sources. -/
def bestOf : List RequiredText → List KnowledgeChunk → List KnowledgeChunk
  | _, [] => []
  | seen_sources, chunk :: chunks =>
    if chunk.source_id ∈ seen_sources then bestOf seen_sources chunks
    else chunk :: bestOf (chunk.source_id :: seen_sources) chunks

/-- The chunks that are not the best of their source. -/
def waiting (chunks : List KnowledgeChunk) : List KnowledgeChunk :=
  chunks.filter (fun chunk => chunk ∉ bestOf [] chunks)

/-- The order in which `select_diverse` takes chunks. -/
def diverseOrder (chunks : List KnowledgeChunk) : List KnowledgeChunk :=
  bestOf [] chunks ++ waiting chunks

theorem bestOf_sublist (seen_sources : List RequiredText) (chunks : List KnowledgeChunk) :
    (bestOf seen_sources chunks).Sublist chunks := by
  induction chunks generalizing seen_sources with
  | nil => exact List.Sublist.slnil
  | cons chunk chunks ih =>
    rw [bestOf]
    by_cases hseen : chunk.source_id ∈ seen_sources
    · rw [if_pos hseen]
      exact (ih seen_sources).cons chunk
    · rw [if_neg hseen]
      exact (ih _).cons_cons chunk

/-- The sources of the best chunks are the sources that were not seen. -/
theorem source_mem_bestOf {source_id : RequiredText} {seen_sources : List RequiredText}
    {chunks : List KnowledgeChunk} :
    source_id ∈ (bestOf seen_sources chunks).map (·.source_id) ↔
      source_id ∈ chunks.map (·.source_id) ∧ source_id ∉ seen_sources := by
  induction chunks generalizing seen_sources with
  | nil => simp [bestOf]
  | cons chunk chunks ih =>
    rw [bestOf]
    by_cases hseen : chunk.source_id ∈ seen_sources
    · rw [if_pos hseen, ih]
      constructor
      · rintro ⟨hmem, hnew⟩
        exact ⟨List.mem_cons_of_mem _ hmem, hnew⟩
      · rintro ⟨hmem, hnew⟩
        rcases List.mem_cons.mp hmem with rfl | hmem
        · exact absurd hseen hnew
        · exact ⟨hmem, hnew⟩
    · rw [if_neg hseen, List.map_cons, List.mem_cons, ih, List.map_cons, List.mem_cons]
      by_cases hsame : source_id = chunk.source_id
      · simp [hsame, hseen]
      · simp [hsame]

/-- No source has two best chunks. -/
theorem bestOf_nodup (seen_sources : List RequiredText) (chunks : List KnowledgeChunk) :
    ((bestOf seen_sources chunks).map (·.source_id)).Nodup := by
  induction chunks generalizing seen_sources with
  | nil => exact List.nodup_nil
  | cons chunk chunks ih =>
    rw [bestOf]
    by_cases hseen : chunk.source_id ∈ seen_sources
    · rw [if_pos hseen]
      exact ih seen_sources
    · rw [if_neg hseen, List.map_cons, List.nodup_cons]
      refine ⟨?_, ih _⟩
      intro hmem
      exact (source_mem_bestOf.mp hmem).2 List.mem_cons_self

/-- The best chunk of a source is the first of it in the list. -/
theorem find_bestOf {source_id : RequiredText} {seen_sources : List RequiredText}
    {chunks : List KnowledgeChunk} (hnew : source_id ∉ seen_sources) :
    (bestOf seen_sources chunks).find? (·.source_id = source_id) =
      chunks.find? (·.source_id = source_id) := by
  induction chunks generalizing seen_sources with
  | nil => rfl
  | cons chunk chunks ih =>
    rw [bestOf]
    by_cases hsame : chunk.source_id = source_id
    · rw [if_neg (hsame ▸ hnew)]
      simp [hsame]
    · by_cases hseen : chunk.source_id ∈ seen_sources
      · rw [if_pos hseen, ih hnew, List.find?_cons_of_neg (by simpa using hsame)]
      · rw [if_neg hseen, List.find?_cons_of_neg (by simpa using hsame),
          List.find?_cons_of_neg (by simpa using hsame)]
        apply ih
        intro hmem
        rcases List.mem_cons.mp hmem with heq | hmem
        · exact hsame heq.symm
        · exact hnew hmem

/-! ## Section 2: The two loops -/

/-- The first loop takes the best chunks until the limit. -/
theorem chooseDiverse_eq {limit : Nat} {chosen : List KnowledgeChunk}
    {seen_sources : List RequiredText} {chunks : List KnowledgeChunk}
    (hroom : chosen.length < limit) :
    chooseDiverse limit chosen seen_sources chunks =
      (chosen ++ (bestOf seen_sources chunks).take (limit - chosen.length),
        decide (limit ≤ chosen.length + (bestOf seen_sources chunks).length)) := by
  induction chunks generalizing chosen seen_sources with
  | nil =>
    simp [chooseDiverse, bestOf, hroom]
  | cons chunk chunks ih =>
    rw [chooseDiverse, bestOf]
    by_cases hseen : chunk.source_id ∈ seen_sources
    · rw [if_pos ⟨hseen, hroom⟩, if_pos hseen]
      exact ih hroom
    · rw [if_neg (fun h => hseen h.1), if_neg hseen]
      have hlength : (chosen ++ [chunk]).length = chosen.length + 1 := by simp
      -- there was room for `chunk`: one place less is left for the others
      obtain ⟨room, hleft⟩ : ∃ room, limit - chosen.length = room + 1 :=
        ⟨limit - chosen.length - 1, by omega⟩
      rw [hleft, List.take_succ_cons, List.length_cons]
      by_cases hfull : limit ≤ (chosen ++ [chunk]).length
      · have hroom0 : room = 0 := by omega
        have hreached : limit ≤ chosen.length +
            ((bestOf (chunk.source_id :: seen_sources) chunks).length + 1) := by omega
        simp only [if_pos hfull]
        simp [hroom0, hreached]
      · simp only [if_neg hfull]
        rw [ih (by omega), hlength]
        have hrest : limit - (chosen.length + 1) = room := by omega
        rw [hrest, List.append_assoc, List.singleton_append]
        congr 2
        apply propext
        constructor
        · intro h
          omega
        · intro h
          omega

/-- The second loop takes the chunks that were not chosen until the limit. -/
theorem fillUp_eq {limit : Nat} {chosen chunks : List KnowledgeChunk}
    (hroom : chosen.length < limit) (hnodup : chunks.Nodup) :
    fillUp limit chosen chunks =
      chosen ++ (chunks.filter (fun chunk => chunk ∉ chosen)).take (limit - chosen.length) := by
  induction chunks generalizing chosen with
  | nil => simp [fillUp]
  | cons chunk chunks ih =>
    obtain ⟨hfresh, hnodup⟩ := List.nodup_cons.mp hnodup
    rw [fillUp]
    by_cases hold : chunk ∈ chosen
    · rw [if_pos hold, List.filter_cons_of_neg (by simpa using hold)]
      exact ih hroom hnodup
    · rw [if_neg hold, List.filter_cons_of_pos (by simpa using hold)]
      have hlength : (chosen ++ [chunk]).length = chosen.length + 1 := by simp
      obtain ⟨room, hleft⟩ : ∃ room, limit - chosen.length = room + 1 :=
        ⟨limit - chosen.length - 1, by omega⟩
      rw [hleft, List.take_succ_cons]
      by_cases hfull : limit ≤ (chosen ++ [chunk]).length
      · have hroom0 : room = 0 := by omega
        simp only [if_pos hfull]
        simp [hroom0]
      · simp only [if_neg hfull]
        rw [ih (by omega) hnodup, hlength, List.append_assoc, List.singleton_append]
        have hrest : limit - (chosen.length + 1) = room := by omega
        -- `chunk` does not come again, so it does not matter that it is chosen now
        have hfilter : chunks.filter (fun c => c ∉ chosen ++ [chunk]) =
            chunks.filter (fun c => c ∉ chosen) := by
          apply List.filter_congr
          intro c hc
          have hne : c ≠ chunk := fun h => hfresh (h ▸ hc)
          simp [hne]
        rw [hrest, hfilter]

/-- `select_diverse` cuts the diverse order at the limit. -/
theorem selectDiverse_eq {chunks : List KnowledgeChunk} {limit : Nat} (hlimit : 0 < limit)
    (hnodup : chunks.Nodup) : selectDiverse chunks limit = (diverseOrder chunks).take limit := by
  have hfirst := @chooseDiverse_eq limit [] [] chunks hlimit
  simp only [List.nil_append, List.length_nil, Nat.sub_zero, Nat.zero_add] at hfirst
  unfold selectDiverse diverseOrder
  by_cases hreached : limit ≤ (bestOf [] chunks).length
  · rw [hfirst, decide_eq_true hreached]
    exact (List.take_append_of_le_length hreached).symm
  · rw [hfirst, decide_eq_false hreached]
    have hall : (bestOf [] chunks).take limit = bestOf [] chunks :=
      List.take_of_length_le (by omega)
    show fillUp limit ((bestOf [] chunks).take limit) chunks = _
    rw [hall, fillUp_eq (by omega) hnodup, List.take_append, hall]
    rfl

/-! ## Section 3: Count, coverage and representation -/

/-- The diverse order is a reordering of the ranked list. -/
theorem diverseOrder_perm {chunks : List KnowledgeChunk} (hnodup : chunks.Nodup) :
    (diverseOrder chunks).Perm chunks := by
  have hbest : (bestOf [] chunks).Nodup := (bestOf_sublist [] chunks).nodup hnodup
  have hdisjoint : (bestOf [] chunks).Disjoint (waiting chunks) := by
    intro c hc hwait
    have hnot := (List.mem_filter.mp hwait).2
    simp [hc] at hnot
  refine (List.perm_ext_iff_of_nodup (hbest.append (hnodup.filter _) hdisjoint) hnodup).mpr ?_
  intro c
  rw [List.mem_append]
  constructor
  · intro hc
    rcases hc with hc | hc
    · exact (bestOf_sublist [] chunks).subset hc
    · exact (List.mem_filter.mp hc).1
  · intro hc
    by_cases hfirst : c ∈ bestOf [] chunks
    · exact Or.inl hfirst
    · exact Or.inr (List.mem_filter.mpr ⟨hc, by simpa using hfirst⟩)

/-- The number of distinct sources of chunks. -/
def sourceCount (chunks : List KnowledgeChunk) : Nat :=
  (chunks.map (·.source_id)).dedup.length

theorem sourceCount_congr {chunks chunks' : List KnowledgeChunk}
    (h : ∀ source_id, source_id ∈ chunks.map (·.source_id) ↔
      source_id ∈ chunks'.map (·.source_id)) : sourceCount chunks = sourceCount chunks' := by
  apply List.Perm.length_eq
  rw [List.perm_ext_iff_of_nodup (List.nodup_dedup _) (List.nodup_dedup _)]
  intro source_id
  rw [List.mem_dedup, List.mem_dedup]
  exact h source_id

theorem sourceCount_of_nodup {chunks : List KnowledgeChunk}
    (h : (chunks.map (·.source_id)).Nodup) : sourceCount chunks = chunks.length := by
  rw [sourceCount, h.dedup, List.length_map]

theorem sourceCount_bestOf (chunks : List KnowledgeChunk) :
    (bestOf [] chunks).length = sourceCount chunks := by
  rw [← sourceCount_of_nodup (bestOf_nodup [] chunks)]
  apply sourceCount_congr
  intro source_id
  rw [source_mem_bestOf]
  simp

/-- The first chunks of the diverse order have as many sources as they can. -/
theorem sourceCount_take (chunks : List KnowledgeChunk) (limit : Nat) (hnodup : chunks.Nodup) :
    sourceCount ((diverseOrder chunks).take limit) = min limit (sourceCount chunks) := by
  have hcount := sourceCount_bestOf chunks
  by_cases hreached : limit ≤ (bestOf [] chunks).length
  · unfold diverseOrder
    rw [List.take_append_of_le_length hreached, sourceCount_of_nodup, List.length_take]
    · omega
    · rw [List.map_take]
      exact (List.take_sublist _ _).nodup (bestOf_nodup [] chunks)
  · -- all the best chunks are among them, so every source is
    have hall : sourceCount ((diverseOrder chunks).take limit) = sourceCount chunks := by
      apply sourceCount_congr
      intro source_id
      constructor
      · intro hmem
        obtain ⟨c, hc, rfl⟩ := List.mem_map.mp hmem
        exact List.mem_map_of_mem
          ((diverseOrder_perm hnodup).mem_iff.mp (List.mem_of_mem_take hc))
      · intro hmem
        have hbest : source_id ∈ (bestOf [] chunks).map (·.source_id) :=
          source_mem_bestOf.mpr ⟨hmem, List.not_mem_nil⟩
        obtain ⟨c, hc, rfl⟩ := List.mem_map.mp hbest
        apply List.mem_map_of_mem
        unfold diverseOrder
        rw [List.take_append, List.take_of_length_le (by omega)]
        exact List.mem_append_left _ hc
    rw [hall]
    omega

theorem find_diverseOrder (chunks : List KnowledgeChunk) (source_id : RequiredText) :
    (diverseOrder chunks).find? (·.source_id = source_id) =
      chunks.find? (·.source_id = source_id) := by
  unfold diverseOrder
  rw [List.find?_append, find_bestOf List.not_mem_nil]
  by_cases hcovered : chunks.find? (·.source_id = source_id) = none
  · have hwait : (waiting chunks).find? (·.source_id = source_id) = none := by
      rw [List.find?_eq_none] at hcovered ⊢
      intro c hc
      exact hcovered c (List.mem_filter.mp hc).1
    rw [hcovered, hwait]
    rfl
  · obtain ⟨best, hbest⟩ := Option.ne_none_iff_exists'.mp hcovered
    rw [hbest]
    rfl

/-- Each source that is among the first chunks of the diverse order is there with
    its best chunk first. -/
theorem find_take (chunks : List KnowledgeChunk) (limit : Nat) {chunk : KnowledgeChunk}
    (hmem : chunk ∈ (diverseOrder chunks).take limit) :
    ((diverseOrder chunks).take limit).find? (·.source_id = chunk.source_id) =
      chunks.find? (·.source_id = chunk.source_id) := by
  have hfound : (((diverseOrder chunks).take limit).find?
      (·.source_id = chunk.source_id)).isSome := by
    rw [List.find?_isSome]
    exact ⟨chunk, hmem, by simp⟩
  obtain ⟨best, hbest⟩ := Option.isSome_iff_exists.mp hfound
  have hsplit : ((diverseOrder chunks).take limit ++ (diverseOrder chunks).drop limit).find?
      (·.source_id = chunk.source_id) =
        (((diverseOrder chunks).take limit).find? (·.source_id = chunk.source_id)).or
          (((diverseOrder chunks).drop limit).find? (·.source_id = chunk.source_id)) :=
    List.find?_append
  rw [List.take_append_drop, find_diverseOrder, hbest] at hsplit
  rw [hbest, hsplit]
  rfl

/-- **Diverse selection**: of distinct ranked chunks and a positive limit, as many
    distinct chunks as there can be, of as many sources as there can be, each source
    with its best chunk first. -/
theorem selectDiverse_law (chunks : List KnowledgeChunk) (limit : Nat) (hnodup : chunks.Nodup)
    (hlimit : 0 < limit) :
    (selectDiverse chunks limit).length = min limit chunks.length ∧
      (selectDiverse chunks limit).Nodup ∧
      (∀ chunk ∈ selectDiverse chunks limit, chunk ∈ chunks) ∧
      sourceCount (selectDiverse chunks limit) = min limit (sourceCount chunks) ∧
      ∀ chunk ∈ selectDiverse chunks limit,
        (selectDiverse chunks limit).find? (·.source_id = chunk.source_id) =
          chunks.find? (·.source_id = chunk.source_id) := by
  have hperm := diverseOrder_perm hnodup
  rw [selectDiverse_eq hlimit hnodup]
  refine ⟨?_, ?_, ?_, sourceCount_take chunks limit hnodup, fun chunk => find_take chunks limit⟩
  · rw [List.length_take, hperm.length_eq]
  · exact (List.take_sublist _ _).nodup (hperm.nodup_iff.mpr hnodup)
  · intro chunk hmem
    exact hperm.mem_iff.mp (List.mem_of_mem_take hmem)

/-- A chunk of a page of the handbook or of the price list. -/
def pageChunk (source_id : RequiredText) (page : Nat) : KnowledgeChunk where
  chunk_id := "page"
  tenant_id := ⟨"acme", by decide⟩
  collection_id := ⟨"docs", by decide⟩
  source_id := source_id
  source_revision := 1
  chunk_index := page
  text := "text"
  content_digest := "digest"
  provenance := ⟨"upload", by decide⟩
  acl_principals := {wildcard}
  created_at := 0
  schema_version := knowledgeSchemaVersion
  source_revision_pos := by decide
  text_ne := by decide

/-- Two pages of the handbook before one of the price list. -/
def rankedPages : List KnowledgeChunk :=
  [pageChunk ⟨"handbook", by decide⟩ 4, pageChunk ⟨"handbook", by decide⟩ 1,
    pageChunk ⟨"prices", by decide⟩ 2]

/-- The price list comes before the second page of the handbook. -/
theorem selectDiverse_pages :
    (selectDiverse rankedPages 2).length = min 2 rankedPages.length ∧
      (selectDiverse rankedPages 2).Nodup ∧
      (∀ chunk ∈ selectDiverse rankedPages 2, chunk ∈ rankedPages) ∧
      sourceCount (selectDiverse rankedPages 2) = min 2 (sourceCount rankedPages) ∧
      ∀ chunk ∈ selectDiverse rankedPages 2,
        (selectDiverse rankedPages 2).find? (·.source_id = chunk.source_id) =
          rankedPages.find? (·.source_id = chunk.source_id) :=
  selectDiverse_law rankedPages 2 (by decide) (by decide)

end CBrain.Knowledge
