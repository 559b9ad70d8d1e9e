import CBrain.Knowledge.CachePath
import CBrain.Knowledge.GraphCitations

/-! # What a fused score is made of

    Fusion adds one reciprocal rank for each place where an id stands in a
    ranked list.  The first fusion leaves every id in one place.  The second
    one is given the chunks that the expansion of the graph cites, and a chunk
    stands there once for each path that cites it.

    * `ranksOf`       : the places of an id in a list.
    * `secondFusion`  : the two lists of the second fusion.
    * `CitedOnce`     : no two paths cite a chunk that the searches missed. -/

namespace CBrain.Knowledge

/-! ## Section 1: Terms -/

section terms
variable {F : Type} [Score F]

/-- The ranks of an id in a list, whose first rank is given. -/
def ranksFrom (chunk_id : String) : Nat → List String → List Nat
  | _, [] => []
  | rank, item :: items =>
    if item = chunk_id then rank :: ranksFrom chunk_id (rank + 1) items
    else ranksFrom chunk_id (rank + 1) items

/-- The ranks of an id in a list, for which fusion adds a term each. -/
def ranksOf (chunk_id : String) (items : List String) : List Nat := ranksFrom chunk_id 1 items

/-- Add the terms of some ranks to a score, one after the other. -/
def addTerms (score : F) (ranks : List Nat) : F :=
  ranks.foldl (fun score rank => score + Score.reciprocal (rrfK + rank)) score

theorem length_ranksFrom (chunk_id : String) (rank : Nat) (items : List String) :
    (ranksFrom chunk_id rank items).length = items.count chunk_id := by
  induction items generalizing rank with
  | nil => rfl
  | cons item items ih =>
    rw [ranksFrom]
    by_cases hitem : item = chunk_id
    · rw [if_pos hitem, List.length_cons, ih, hitem, List.count_cons_self]
    · rw [if_neg hitem, ih, List.count_cons_of_ne hitem]

theorem length_ranksOf (chunk_id : String) (items : List String) :
    (ranksOf chunk_id items).length = items.count chunk_id :=
  length_ranksFrom chunk_id 1 items

/-- One ranked list adds the terms of an id's ranks to what the id had. -/
theorem get?_addRanked (scores : Table String F) (rank : Nat) (items : List String)
    (chunk_id : String) :
    (addRanked scores rank items).get? chunk_id =
      if ranksFrom chunk_id rank items = [] then scores.get? chunk_id
      else some (addTerms ((scores.get? chunk_id).getD 0) (ranksFrom chunk_id rank items)) := by
  induction items generalizing scores rank with
  | nil => rfl
  | cons item items ih =>
    rw [addRanked, ranksFrom]
    simp only [ih]
    by_cases hitem : item = chunk_id
    · subst hitem
      rw [if_pos rfl, Table.get?_set_self, if_neg (List.cons_ne_nil _ _)]
      by_cases hlater : ranksFrom item (rank + 1) items = []
      · rw [if_pos hlater, hlater]
        rfl
      · rw [if_neg hlater]
        rfl
    · rw [if_neg hitem, Table.get?_set_ne _ _ (Ne.symm hitem)]

omit [Score F] in
/-- Sorting the rows of a table changes nothing that is looked up. -/
theorem lookup_sortBy_rows {K : Type} [LinearOrder K] (key : String × F → K)
    (t : Table String F) (chunk_id : String) :
    (t.rows.sortBy key).lookup chunk_id = t.get? chunk_id := by
  have hperm := List.sortBy_perm key t.rows
  let sorted : Table String F := ⟨t.rows.sortBy key, (hperm.map Prod.fst).nodup_iff.mpr t.unique⟩
  apply Option.ext
  intro score
  calc sorted.get? chunk_id = some score
      ↔ (chunk_id, score) ∈ t.rows.sortBy key := Table.mem_rows.symm
    _ ↔ (chunk_id, score) ∈ t.rows := List.mem_sortBy
    _ ↔ t.get? chunk_id = some score := Table.mem_rows

/-- The fusion of two lists gives each id the terms of its ranks in both. -/
theorem lookup_reciprocalRankFusion (first second : List String) (chunk_id : String) :
    (reciprocalRankFusion (F := F) [first, second]).lookup chunk_id =
      if ranksOf chunk_id first ++ ranksOf chunk_id second = [] then none
      else some (addTerms 0 (ranksOf chunk_id first ++ ranksOf chunk_id second)) := by
  have hone : (addRanked (F := F) Table.empty 1 first).get? chunk_id =
      if ranksOf chunk_id first = [] then none else some (addTerms 0 (ranksOf chunk_id first)) :=
    get?_addRanked Table.empty 1 first chunk_id
  have htwo (scores : Table String F) : (addRanked scores 1 second).get? chunk_id =
      if ranksOf chunk_id second = [] then scores.get? chunk_id
      else some (addTerms ((scores.get? chunk_id).getD 0) (ranksOf chunk_id second)) :=
    get?_addRanked scores 1 second chunk_id
  unfold reciprocalRankFusion
  rw [lookup_sortBy_rows, List.foldl_cons, List.foldl_cons, List.foldl_nil, htwo, hone]
  by_cases hfirst : ranksOf chunk_id first = []
  · rw [hfirst, List.nil_append, if_pos rfl]
    rfl
  · by_cases hsecond : ranksOf chunk_id second = []
    · rw [hsecond, List.append_nil, if_pos rfl]
    · have hboth : ranksOf chunk_id first ++ ranksOf chunk_id second ≠ [] := by
        simp [hfirst]
      rw [if_neg hfirst, if_neg hsecond, if_neg hboth]
      unfold addTerms
      rw [List.foldl_append]
      rfl

/-- A fusion ranks no id twice. -/
theorem nodup_reciprocalRankFusion (lists : List (List String)) :
    ((reciprocalRankFusion (F := F) lists).map Prod.fst).Nodup := by
  unfold reciprocalRankFusion
  exact ((List.sortBy_perm rankKey _).map Prod.fst).nodup_iff.mpr (Table.unique _)

/-- What stands in one of the lists is ranked. -/
theorem mem_reciprocalRankFusion {first second : List String} {chunk_id : String}
    (h : chunk_id ∈ first ∨ chunk_id ∈ second) :
    chunk_id ∈ (reciprocalRankFusion (F := F) [first, second]).map Prod.fst := by
  have hsome : ranksOf chunk_id first ++ ranksOf chunk_id second ≠ [] := by
    rw [← List.length_pos_iff, List.length_append, length_ranksOf, length_ranksOf]
    rcases h with hmem | hmem
    · exact Nat.add_pos_left (List.count_pos_iff.mpr hmem) _
    · exact Nat.add_pos_right _ (List.count_pos_iff.mpr hmem)
  have hlookup := lookup_reciprocalRankFusion (F := F) first second chunk_id
  rw [if_neg hsome] at hlookup
  obtain ⟨item, hitem, hid⟩ := List.lookup_isSome_iff.mp (Option.isSome_of_eq_some hlookup)
  rw [beq_iff_eq] at hid
  rw [hid]
  exact List.mem_map_of_mem hitem

/-- Where every term counts, more of them make a score higher. -/
theorem lt_addTerms (hgrow : ∀ (score : F) (rank : Nat), score < score + Score.reciprocal (rrfK + rank))
    (score : F) {ranks : List Nat} (h : ranks ≠ []) : score < addTerms score ranks := by
  induction ranks generalizing score with
  | nil => exact absurd rfl h
  | cons rank ranks ih =>
    by_cases hlast : ranks = []
    · rw [hlast]
      exact hgrow score rank
    · exact lt_trans (hgrow score rank) (ih _ hlast)

end terms

/-! ## Section 2: The lists of the second fusion -/

namespace HybridRetriever

variable {F : Type} [Score F]

/-- The walk of `_graph_expand`: the paths from the nodes of some chunks. -/
def walkedPaths (r : HybridRetriever) (reader : KnowledgeReader F) (query : RetrievalQuery)
    (chunks : List KnowledgeChunk) : Raises (List GraphPath) := do
  let seeds ← reader.nodes_for_chunks (chunks.map KnowledgeChunk.chunk_id)
  reader.traverse query.tenant_id query.principal_id (seeds.map GraphNode.node_id)
    r.config.graph_max_depth r.config.graph_max_nodes

/-- The ids that some paths cite, path by path. -/
def citedIds (paths : List GraphPath) : List String :=
  (paths.flatMap GraphPath.citations).map Citation.chunk_id

/-- What the second fusion is given, and where it comes from. -/
structure SecondFusion where
  /-- The candidates of the two searches. -/
  chunks : List KnowledgeChunk
  paths : List GraphPath
  fused_ids : List String
  extra_ids : List String

/-- The fresh path up to the second fusion, where the graph is expanded. -/
def secondFusion (r : HybridRetriever) (reader : KnowledgeReader F) (query : RetrievalQuery) :
    Raises SecondFusion := do
  let (vector_hits, keyword_hits) ← searches r reader query
  let fused : List (String × F) :=
    reciprocalRankFusion [vector_hits.map Prod.fst, keyword_hits.map Prod.fst]
  let fused_ids := fused.map Prod.fst
  let chunks ← authorizedChunks reader query fused_ids
  let paths ← walkedPaths r reader query chunks
  let expanded ← authorizedChunks reader query (citedIds paths)
  pure ⟨chunks, paths, fused_ids,
    (expanded.filter fun chunk => chunk ∉ chunks).map KnowledgeChunk.chunk_id⟩

variable {r : HybridRetriever} {reader : KnowledgeReader F} {query : RetrievalQuery}
  {casefold : String → String}

omit [Score F] in
theorem graphExpand_eq (chunks : List KnowledgeChunk) :
    graphExpand r reader query chunks = (do
      let paths ← walkedPaths r reader query chunks
      authorizedChunks reader query (citedIds paths)) := by
  unfold graphExpand walkedPaths
  rw [bind_assoc]
  rfl

/-- What the second fusion is given is known of every answer. -/
structure SecondFusion.Of (reader : KnowledgeReader F) (query : RetrievalQuery)
    (s : SecondFusion) : Prop where
  fused : s.fused_ids.Nodup
  expanded : ∃ expanded, authorizedChunks reader query (citedIds s.paths) = .ok expanded ∧
    s.extra_ids = (expanded.filter fun chunk => chunk ∉ s.chunks).map KnowledgeChunk.chunk_id
  walked : ∃ seeds depth nodes,
    reader.traverse query.tenant_id query.principal_id seeds depth nodes = .ok s.paths

/-- The scores of the fresh path are those of the second fusion. -/
theorem candidates_fused {c : Candidates F} (h : candidates r reader query = .ok c)
    (hexpand : r.expand_graph = true) :
    ∃ s, secondFusion r reader query = .ok s ∧ s.Of reader query ∧
      c.score_map = reciprocalRankFusion [s.fused_ids, s.extra_ids] := by
  unfold candidates at h
  rw [bind_ok] at h
  obtain ⟨⟨vector_hits, keyword_hits⟩, hsearches, h⟩ := h
  rw [bind_ok] at h
  obtain ⟨chunks, hchunks, h⟩ := h
  simp only [if_pos hexpand] at h
  rw [bind_ok] at h
  obtain ⟨expanded, hexpanded, h⟩ := h
  rw [bind_ok] at h
  obtain ⟨all, -, h⟩ := h
  obtain rfl := pure_ok.mp h
  rw [graphExpand_eq, bind_ok] at hexpanded
  obtain ⟨paths, hpaths, hexpanded⟩ := hexpanded
  refine ⟨⟨chunks, paths, _, _⟩, ?_, ⟨?_, ⟨expanded, hexpanded, rfl⟩, ?_⟩, rfl⟩
  · unfold secondFusion
    rw [hsearches]
    change (authorizedChunks reader query _ >>= _) = _
    rw [hchunks]
    change (walkedPaths r reader query chunks >>= _) = _
    rw [hpaths]
    change (authorizedChunks reader query _ >>= _) = _
    rw [hexpanded]
    rfl
  · exact nodup_reciprocalRankFusion _
  · unfold walkedPaths at hpaths
    rw [bind_ok] at hpaths
    obtain ⟨seeds, -, hwalk⟩ := hpaths
    exact ⟨_, _, _, hwalk⟩

/-! ## Section 3: A path cites a chunk once -/

end HybridRetriever

theorem nodup_citedChunks {find : String → Option KnowledgeChunk}
    (hkeyed : ∀ {chunk_id chunk}, find chunk_id = some chunk → chunk.chunk_id = chunk_id)
    (seen chunk_ids : List String) :
    ((citedChunks find seen chunk_ids).map KnowledgeChunk.chunk_id).Nodup ∧
      ∀ chunk_id ∈ (citedChunks find seen chunk_ids).map KnowledgeChunk.chunk_id,
        chunk_id ∉ seen := by
  induction chunk_ids generalizing seen with
  | nil => exact ⟨List.nodup_nil, fun _ h => absurd h List.not_mem_nil⟩
  | cons id chunk_ids ih =>
    rw [citedChunks]
    cases hfind : find id with
    | none => exact ih seen
    | some chunk =>
      by_cases hseen : id ∈ seen
      · simp only [if_pos hseen]
        exact ih seen
      · simp only [if_neg hseen, List.map_cons, hkeyed hfind]
        obtain ⟨hnodup, hfresh⟩ := ih (id :: seen)
        constructor
        · exact List.nodup_cons.mpr
            ⟨fun hmem => hfresh id hmem List.mem_cons_self, hnodup⟩
        · intro chunk_id hmem
          rcases List.mem_cons.mp hmem with rfl | hlater
          · exact hseen
          · exact fun hold => hfresh chunk_id hlater (List.mem_cons_of_mem id hold)

theorem nodup_citationsForNodes {find : String → Option KnowledgeChunk}
    (hkeyed : ∀ {chunk_id chunk}, find chunk_id = some chunk → chunk.chunk_id = chunk_id)
    (nodes : List GraphNode) :
    ((citationsForNodes find nodes).map Citation.chunk_id).Nodup := by
  unfold citationsForNodes
  rw [List.map_map]
  exact (nodup_citedChunks hkeyed [] (provenanceIds nodes)).1

namespace HybridRetriever

variable {F : Type} [Score F] {r : HybridRetriever} {reader : KnowledgeReader F}
  {query : RetrievalQuery} {casefold : String → String}

/-- In either store a path cites no chunk twice. -/
theorem OfStore.nodup_citations (hstore : OfStore casefold reader)
    {tenant_id principal_id : RequiredText} {seeds : List RequiredText} {depth nodes : Nat}
    {paths : List GraphPath}
    (h : reader.traverse tenant_id principal_id seeds depth nodes = .ok paths) :
    ∀ path ∈ paths, (path.citations.map Citation.chunk_id).Nodup := by
  intro path hpath
  cases hstore with
  | memory store similarity =>
    obtain rfl := Except.ok.inj h
    obtain ⟨hcites, -⟩ := boundedWalk_path hpath
    rw [hcites]
    apply nodup_citationsForNodes
    intro chunk_id chunk hallowed
    have hfind : store.findChunk chunk_id = some chunk := (Option.filter_eq_some_iff.mp hallowed).1
    exact Registry.key_of_get? (Option.filter_eq_some_iff.mp hfind).1
  | postgres store index =>
    obtain rfl := Except.ok.inj h
    obtain ⟨hcites, -⟩ := boundedWalk_path hpath
    rw [hcites]
    apply nodup_citationsForNodes
    intro chunk_id chunk hfind
    exact Registry.key_of_get? (Option.filter_eq_some_iff.mp hfind).1

/-! ## Section 4: The places in the expansion list -/

/-- The path cites the chunk of the id. -/
def cites (chunk_id : String) (path : GraphPath) : Bool :=
  chunk_id ∈ path.citations.map Citation.chunk_id

/-- No two of the paths cite one chunk that the principal may read and that the
    searches missed. -/
def CitedOnce (reader : KnowledgeReader F) (query : RetrievalQuery)
    (chunks : List KnowledgeChunk) (paths : List GraphPath) : Prop :=
  ∀ chunk, Loaded reader query chunk → chunk ∉ chunks →
    paths.countP (cites chunk.chunk_id) ≤ 1

/-- An id stands among the cited ones once for each path that cites it. -/
theorem count_citedIds {paths : List GraphPath}
    (h : ∀ path ∈ paths, (path.citations.map Citation.chunk_id).Nodup) (chunk_id : String) :
    (citedIds paths).count chunk_id = paths.countP (cites chunk_id) := by
  induction paths with
  | nil => rfl
  | cons path paths ih =>
    have hcons : citedIds (path :: paths) =
        path.citations.map Citation.chunk_id ++ citedIds paths := by
      unfold citedIds
      rw [List.flatMap_cons, List.map_append]
    rw [hcons, List.count_append, ih fun p hp => h p (List.mem_cons_of_mem path hp),
      List.countP_cons, (h path List.mem_cons_self).count, Nat.add_comm]
    unfold cites
    simp only [decide_eq_true_eq]

omit [Score F] in
theorem mem_authorizedChunks {find : String → Option KnowledgeChunk} (hload : LoadsById reader find)
    {chunk_ids : List String} {chunks : List KnowledgeChunk}
    (h : authorizedChunks reader query chunk_ids = .ok chunks) {chunk : KnowledgeChunk} :
    chunk ∈ chunks ↔
      chunk.chunk_id ∈ chunk_ids ∧ find chunk.chunk_id = some chunk ∧
        readable query chunk = true := by
  obtain ⟨loaded, hloaded, rfl⟩ := authorizedChunks_ok h
  rw [hload.load_chunks] at hloaded
  obtain rfl := Except.ok.inj hloaded
  rw [List.mem_filter, List.mem_filterMap]
  constructor
  · rintro ⟨⟨chunk_id, hmem, hfind⟩, hread⟩
    rw [hload.keyed hfind]
    exact ⟨hmem, hfind, hread⟩
  · rintro ⟨hmem, hfind, hread⟩
    exact ⟨⟨chunk.chunk_id, hmem, hfind⟩, hread⟩

/-- The ids of the found chunks that are kept are the ids whose chunk is. -/
theorem map_chunk_id_filter {find : String → Option KnowledgeChunk}
    (hkeyed : ∀ {chunk_id chunk}, find chunk_id = some chunk → chunk.chunk_id = chunk_id)
    (keep : KnowledgeChunk → Bool) (chunk_ids : List String) :
    ((chunk_ids.filterMap find).filter keep).map KnowledgeChunk.chunk_id =
      chunk_ids.filter fun chunk_id => (find chunk_id).any keep := by
  induction chunk_ids with
  | nil => rfl
  | cons id chunk_ids ih =>
    cases hfind : find id with
    | none =>
      rw [List.filterMap_cons_none hfind, ih, List.filter_cons_of_neg (by simp [hfind])]
    | some chunk =>
      rw [List.filterMap_cons_some hfind]
      by_cases hkeep : keep chunk = true
      · rw [List.filter_cons_of_pos hkeep, List.map_cons, ih, hkeyed hfind,
          List.filter_cons_of_pos (by simp [hfind, hkeep])]
      · rw [List.filter_cons_of_neg hkeep, ih,
          List.filter_cons_of_neg (by simp [hfind, hkeep])]

/-- No id stands twice in the expansion list exactly when no two paths cite one
    chunk that the searches missed. -/
theorem extra_ids_iff (hstore : OfStore casefold reader) {s : SecondFusion}
    (hs : s.Of reader query) :
    (∀ chunk_id, s.extra_ids.count chunk_id ≤ 1) ↔ CitedOnce reader query s.chunks s.paths := by
  obtain ⟨find, hload⟩ := hstore.loadsById
  obtain ⟨expanded, hexpanded, hextra⟩ := hs.expanded
  obtain ⟨_, _, _, hwalk⟩ := hs.walked
  obtain ⟨loaded, hloaded, rfl⟩ := authorizedChunks_ok hexpanded
  rw [hload.load_chunks] at hloaded
  obtain rfl := Except.ok.inj hloaded
  rw [List.filter_filter, map_chunk_id_filter hload.keyed] at hextra
  have hcited := count_citedIds (hstore.nodup_citations hwalk)
  rw [hextra]
  constructor
  · intro hall chunk hchunk hmissed
    have hkept : (find chunk.chunk_id).any
        (fun chunk => decide (chunk ∉ s.chunks) && readable query chunk) = true := by
      rw [find_of_loaded hload hchunk]
      simp [hmissed, hchunk.1]
    rw [← hcited, ← List.count_filter (p := fun id => (find id).any
      (fun chunk => decide (chunk ∉ s.chunks) && readable query chunk)) hkept]
    exact hall chunk.chunk_id
  · intro honce chunk_id
    by_cases hkept : (find chunk_id).any
        (fun chunk => decide (chunk ∉ s.chunks) && readable query chunk) = true
    · obtain ⟨chunk, hfind, hkeep⟩ := (Option.any_eq_true _ _).mp hkept
      simp only [Bool.and_eq_true, decide_eq_true_eq] at hkeep
      have hone := honce chunk
        ⟨hkeep.2, [chunk_id], [chunk], by rw [hload.load_chunks]; simp [hfind], by simp⟩ hkeep.1
      rw [hload.keyed hfind, ← hcited] at hone
      exact (List.filter_sublist.count_le chunk_id).trans hone
    · rw [List.count_eq_zero.mpr]
      · exact Nat.zero_le 1
      · exact fun hmem => hkept (List.mem_filter.mp hmem).2

/-! ## Section 5: One term from each list -/

/-- Each of the two lists adds at most one term to the score of an id. -/
def OneTermEach (s : SecondFusion) (chunk_id : String) : Prop :=
  (ranksOf chunk_id s.fused_ids).length ≤ 1 ∧ (ranksOf chunk_id s.extra_ids).length ≤ 1

/-- The score of an id that stands once in each list, at its best rank there. -/
def bestScore (s : SecondFusion) (chunk_id : String) : F :=
  addTerms 0 ((ranksOf chunk_id s.fused_ids).take 1 ++ (ranksOf chunk_id s.extra_ids).take 1)

omit [Score F] in
theorem oneTermEach_iff {s : SecondFusion} (hs : s.Of reader query) :
    (∀ chunk_id, OneTermEach s chunk_id) ↔ ∀ chunk_id, s.extra_ids.count chunk_id ≤ 1 := by
  have hfused : ∀ chunk_id, s.fused_ids.count chunk_id ≤ 1 :=
    List.nodup_iff_count_le_one.mp hs.fused
  unfold OneTermEach
  simp only [length_ranksOf]
  exact ⟨fun h chunk_id => (h chunk_id).2, fun h chunk_id => ⟨hfused chunk_id, h chunk_id⟩⟩

/-- Where every term counts, an id with more than one term from a list scores
    higher than it would with the best ones. -/
theorem bestScore_iff (hgrow : ∀ (score : F) (rank : Nat), score < score + Score.reciprocal (rrfK + rank))
    {s : SecondFusion} (hs : s.Of reader query) :
    (∀ chunk_id score,
      (reciprocalRankFusion (F := F) [s.fused_ids, s.extra_ids]).lookup chunk_id = some score →
        score ≤ bestScore s chunk_id) ↔ ∀ chunk_id, s.extra_ids.count chunk_id ≤ 1 := by
  constructor
  · intro hbest chunk_id
    by_contra hmany
    rw [← length_ranksOf] at hmany
    have hfused := List.nodup_iff_count_le_one.mp hs.fused chunk_id
    rw [← length_ranksOf] at hfused
    have hlater : (ranksOf chunk_id s.extra_ids).drop 1 ≠ [] := by
      rw [← List.length_pos_iff, List.length_drop]
      omega
    have hextra : ranksOf chunk_id s.extra_ids ≠ [] := by
      rw [← List.length_pos_iff]
      omega
    have hall := hbest chunk_id
      (addTerms 0 (ranksOf chunk_id s.fused_ids ++ ranksOf chunk_id s.extra_ids)) (by
        rw [lookup_reciprocalRankFusion, if_neg (by simp [hextra])])
    have hsplit : addTerms (0 : F)
        (ranksOf chunk_id s.fused_ids ++ ranksOf chunk_id s.extra_ids) =
          addTerms (bestScore s chunk_id) ((ranksOf chunk_id s.extra_ids).drop 1) := by
      unfold bestScore addTerms
      rw [← List.foldl_append, List.append_assoc, List.take_append_drop,
        List.take_of_length_le hfused]
    rw [hsplit] at hall
    exact absurd hall (not_le.mpr (lt_addTerms hgrow _ hlater))
  · intro hone chunk_id score hscore
    have hfused := List.nodup_iff_count_le_one.mp hs.fused chunk_id
    have hextra := hone chunk_id
    rw [← length_ranksOf] at hfused hextra
    rw [lookup_reciprocalRankFusion] at hscore
    by_cases hnone : ranksOf chunk_id s.fused_ids ++ ranksOf chunk_id s.extra_ids = []
    · rw [if_pos hnone] at hscore
      cases hscore
    · rw [if_neg hnone] at hscore
      obtain rfl := Option.some.inj hscore
      unfold bestScore
      rw [List.take_of_length_le hfused, List.take_of_length_le hextra]

/-- A fresh answer with the graph scores a chunk with the terms of its ranks in
    the two lists.  There is at most one from each, for every chunk, exactly
    when no two paths cite one chunk that the searches missed; and where every
    term counts, that is exactly when no chunk scores higher than with its best
    ranks. -/
theorem fused_terms_iff (hstore : OfStore casefold reader) (hexpand : r.expand_graph = true)
    {c : Candidates F} (h : candidates r reader query = .ok c) :
    ∃ s, secondFusion r reader query = .ok s ∧
      (∀ chunk_id, c.score_map.lookup chunk_id =
        if ranksOf chunk_id s.fused_ids ++ ranksOf chunk_id s.extra_ids = [] then none
        else some (addTerms 0
          (ranksOf chunk_id s.fused_ids ++ ranksOf chunk_id s.extra_ids))) ∧
      ((∀ chunk_id, OneTermEach s chunk_id) ↔ CitedOnce reader query s.chunks s.paths) ∧
      ((∀ (score : F) (rank : Nat), score < score + Score.reciprocal (rrfK + rank)) →
        ((∀ chunk_id score, c.score_map.lookup chunk_id = some score →
          score ≤ bestScore s chunk_id) ↔ CitedOnce reader query s.chunks s.paths)) := by
  obtain ⟨s, hfusion, hs, hscores⟩ := candidates_fused h hexpand
  refine ⟨s, hfusion, ?_, ?_, ?_⟩
  · intro chunk_id
    rw [hscores, lookup_reciprocalRankFusion]
  · rw [oneTermEach_iff hs, extra_ids_iff hstore hs]
  · intro hgrow
    rw [hscores, bestScore_iff hgrow hs, extra_ids_iff hstore hs]

/-- Asked for a review, the log leads to the FAQ by one path. -/
theorem fused_terms_review :
    ∃ c s, candidates (opsRetriever true) opsReader reviewQuery = .ok c ∧
      secondFusion (opsRetriever true) opsReader reviewQuery = .ok s ∧
      s.extra_ids = [faqId.val] ∧ ∀ chunk_id, OneTermEach s chunk_id := by
  have hreturns : (candidates (opsRetriever true) opsReader reviewQuery).map (fun _ => ()) =
      .ok () := by
    decide +kernel
  have hlists : (secondFusion (opsRetriever true) opsReader reviewQuery).map (fun s =>
      (s.chunks, s.paths.map fun path => path.citations.map Citation.chunk_id, s.extra_ids)) =
        .ok ([logChunk], [[logId.val], [logId.val, faqId.val]], [faqId.val]) := by
    decide +kernel
  obtain ⟨c, hc, -⟩ := map_ok.mp hreturns
  obtain ⟨s, hs, hfields⟩ := map_ok.mp hlists
  obtain ⟨hchunks, hrest⟩ := Prod.mk.inj hfields
  obtain ⟨hpaths, hextra⟩ := Prod.mk.inj hrest
  have hstore : OfStore id opsReader := .memory opsStore sameLetter
  have honce : CitedOnce opsReader reviewQuery s.chunks s.paths := by
    intro chunk hloaded hmissed
    have hfind : opsStore.findChunk chunk.chunk_id = some chunk :=
      find_of_loaded ⟨fun _ => rfl, fun h => Registry.key_of_get? (Option.filter_eq_some_iff.mp h).1⟩
        hloaded
    -- The log alone was found by the searches.
    have hother : chunk.chunk_id ≠ logId.val := by
      intro hid
      rw [hid] at hfind
      have hlog : opsStore.findChunk logId.val = some logChunk := by decide +kernel
      rw [hlog] at hfind
      rw [hchunks, ← Option.some.inj hfind] at hmissed
      exact hmissed List.mem_cons_self
    have hcount : s.paths.countP (cites chunk.chunk_id) =
        (s.paths.map fun path => path.citations.map Citation.chunk_id).countP
          fun ids => decide (chunk.chunk_id ∈ ids) := by
      rw [List.countP_map]
      rfl
    rw [hcount, hpaths]
    simp [hother, List.countP_cons]
    split <;> omega
  obtain ⟨s', hs', -, hiff, -⟩ := fused_terms_iff hstore rfl hc
  rw [hs] at hs'
  obtain rfl := Except.ok.inj hs'
  exact ⟨c, s, hc, hs, hextra, hiff.mpr honce⟩

/-! ### Two ways to the FAQ

    A second node is supported by the FAQ, and the log leads to both. -/

def desk : RequiredText := ⟨"pager desk", by decide⟩

def deskNode : GraphNode := { sourceNode faqChunk faqId with node_id := desk }

def deskEdge : GraphEdge :=
  { faqEdge logChunk logId with edge_id := desk, target_node_id := desk }

def deskStore : InMemoryKnowledgeStore :=
  (opsStore.upsertNodes [deskNode]).upsertEdges [deskEdge]

def deskReader : KnowledgeReader ℚ := deskStore.reader sameLetter id

/-- Asked for a review, the log is found, and two paths from it cite the FAQ: the
    FAQ gets a term for each of them and comes first. -/
theorem two_paths_two_terms :
    (∃ ts, IngestRun InMemoryKnowledgeStore.publisher InMemoryKnowledgeStore.empty ts
      ⟨deskStore, []⟩) ∧
    ∃ c s context chunk_ids,
      candidates (opsRetriever true) deskReader reviewQuery = .ok c ∧
      secondFusion (opsRetriever true) deskReader reviewQuery = .ok s ∧
      s.fused_ids = [logId.val] ∧ s.extra_ids = [faqId.val, faqId.val] ∧
      ¬ OneTermEach s faqId.val ∧
      c.score_map.lookup faqId.val = some (1 / 61 + 1 / 62) ∧
      bestScore s faqId.val = (1 / 61 : ℚ) ∧
      answerFresh (opsRetriever true) deskReader id reviewQuery = .ok (context, chunk_ids) ∧
      context.hits.map (fun hit => (hit.chunk, hit.score)) =
        [(faqChunk, 1 / 61 + 1 / 62), (logChunk, 1 / 61)] := by
  constructor
  · obtain ⟨ts, hrun⟩ := opsStore_reached
    exact ⟨_, (hrun.step (.upsertNodes rfl)).step (.upsertEdges rfl)⟩
  have hscores : (candidates (opsRetriever true) deskReader reviewQuery).map
      (fun c => c.score_map.lookup faqId.val) = .ok (some (1 / 61 + 1 / 62)) := by
    decide +kernel
  have hlists : (secondFusion (opsRetriever true) deskReader reviewQuery).map
      (fun s => (s.fused_ids, s.extra_ids)) = .ok ([logId.val], [faqId.val, faqId.val]) := by
    decide +kernel
  have hanswer : (answerFresh (opsRetriever true) deskReader id reviewQuery).map
      (fun answer => answer.1.hits.map fun hit => (hit.chunk, hit.score)) =
        .ok [(faqChunk, 1 / 61 + 1 / 62), (logChunk, 1 / 61)] := by
    decide +kernel
  obtain ⟨c, hc, hscore⟩ := map_ok.mp hscores
  obtain ⟨s, hs, hfields⟩ := map_ok.mp hlists
  obtain ⟨hfused, hextra⟩ := Prod.mk.inj hfields
  obtain ⟨⟨context, chunk_ids⟩, hfresh, hhits⟩ := map_ok.mp hanswer
  refine ⟨c, s, context, chunk_ids, hc, hs, hfused, hextra, ?_, hscore, ?_, hfresh, hhits⟩
  · unfold OneTermEach
    rw [hfused, hextra]
    decide
  · unfold bestScore
    rw [hfused, hextra]
    decide +kernel

end HybridRetriever

end CBrain.Knowledge
