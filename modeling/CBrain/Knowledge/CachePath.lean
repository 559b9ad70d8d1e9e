import CBrain.Knowledge.MemoryHistory
import CBrain.Knowledge.Postgres

/-! # The cached path and the fresh path

    The cache keeps the ids of a ranking.  A later call loads the chunks again,
    gives all of them the same score and sorts them: the order of the ranking
    is lost, and the chunks come in the order of their sources.

    * `fitting`       : the chunks that the budget admits, in order.
    * `InSourceOrder` : a ranking that the second call answers alike.
    * `LoadsById`     : what the stores have in common. -/

namespace CBrain.Knowledge

namespace HybridRetriever

variable {F : Type} [Score F]

/-! ## Section 1: The budget -/

/-- What some chunks use of a budget. -/
def Used.addAll (used : Used) (chunks : List KnowledgeChunk) : Used := chunks.foldl Used.add used

/-- The chunks up to the first that does not fit. -/
def fitting (config : KnowledgeConfig) : Used → List KnowledgeChunk → List KnowledgeChunk
  | _, [] => []
  | used, chunk :: chunks =>
    if used.fits config chunk then chunk :: fitting config (used.add chunk) chunks else []

omit [Score F] in
/-- The budget looks at the chunks of the hits only. -/
theorem map_chunk_takeBudget (config : KnowledgeConfig) (used : Used)
    (hits : List (RetrievalHit F)) :
    (takeBudget config used hits).map RetrievalHit.chunk =
      fitting config used (hits.map RetrievalHit.chunk) := by
  induction hits generalizing used with
  | nil => rfl
  | cons hit hits ih =>
    rw [takeBudget, List.map_cons, fitting]
    by_cases hfits : used.fits config hit.chunk = true
    · rw [if_pos hfits, if_pos hfits, List.map_cons, ih]
    · rw [if_neg hfits, if_neg hfits, List.map_nil]

theorem fitting_append {config : KnowledgeConfig} {used : Used} {front : List KnowledgeChunk}
    (h : fitting config used front = front) (rest : List KnowledgeChunk) :
    fitting config used (front ++ rest) = front ++ fitting config (used.addAll front) rest := by
  induction front generalizing used with
  | nil => rfl
  | cons chunk front ih =>
    rw [fitting] at h
    by_cases hfits : used.fits config chunk = true
    · rw [if_pos hfits] at h
      rw [List.cons_append, fitting, if_pos hfits, ih (List.cons.inj h).2]
      rfl
    · rw [if_neg hfits] at h
      cases h

/-- A list is cut in what fits and a rest whose first chunk does not. -/
theorem fitting_cut (config : KnowledgeConfig) (used : Used) (chunks : List KnowledgeChunk) :
    ∃ rest, chunks = fitting config used chunks ++ rest ∧
      fitting config used (fitting config used chunks) = fitting config used chunks := by
  induction chunks generalizing used with
  | nil => exact ⟨[], rfl, rfl⟩
  | cons chunk chunks ih =>
    rw [fitting]
    by_cases hfits : used.fits config chunk = true
    · obtain ⟨rest, hcut, hagain⟩ := ih (used.add chunk)
      rw [if_pos hfits]
      refine ⟨rest, ?_, ?_⟩
      · rw [List.cons_append, ← hcut]
      · rw [fitting, if_pos hfits, hagain]
    · rw [if_neg hfits]
      exact ⟨chunk :: chunks, rfl, rfl⟩

theorem fitting_eq_nil {config : KnowledgeConfig} {used : Used} {chunks : List KnowledgeChunk} :
    fitting config used chunks = [] ↔ ∀ chunk ∈ chunks.head?, used.fits config chunk = false := by
  cases chunks with
  | nil => simp [fitting]
  | cons chunk chunks =>
    rw [fitting]
    by_cases hfits : used.fits config chunk = true
    · simp [hfits]
    · simp [hfits]

/-! ## Section 2: Rankings that survive the cache -/

/-- The key `(source_id, chunk_index)` of a chunk. -/
def sourceKey (chunk : KnowledgeChunk) : RequiredText ×ₗ Nat :=
  toLex (chunk.source_id, chunk.chunk_index)

/-- What comes in a ranking after the chunks that the budget admits. -/
def overBudget (config : KnowledgeConfig) (ranked : List KnowledgeChunk) : List KnowledgeChunk :=
  ranked.drop (fitting config ⟨0, 0, 0⟩ ranked).length

/-- The admitted chunks are in source order, those over the budget are after
    them, and the first of these in source order does not fit either. -/
structure InSourceOrder (config : KnowledgeConfig) (ranked : List KnowledgeChunk) : Prop where
  admitted : (fitting config ⟨0, 0, 0⟩ ranked).Pairwise fun a b => sourceKey a ≤ sourceKey b
  after : ∀ a ∈ fitting config ⟨0, 0, 0⟩ ranked, ∀ b ∈ overBudget config ranked,
    sourceKey a ≤ sourceKey b
  full : ∀ chunk ∈ ((overBudget config ranked).sortBy sourceKey).head?,
    (Used.addAll ⟨0, 0, 0⟩ (fitting config ⟨0, 0, 0⟩ ranked)).fits config chunk = false

/-- Sorting a ranking by source leaves the admitted chunks as they are exactly
    when it is in source order. -/
theorem fitting_sortBy_iff {config : KnowledgeConfig} {ranked : List KnowledgeChunk} :
    fitting config ⟨0, 0, 0⟩ (ranked.sortBy sourceKey) = fitting config ⟨0, 0, 0⟩ ranked ↔
      InSourceOrder config ranked := by
  obtain ⟨rest, hcut, hagain⟩ := fitting_cut config ⟨0, 0, 0⟩ ranked
  have hover : overBudget config ranked = rest := by
    unfold overBudget
    exact (congrArg (List.drop _) hcut).trans List.drop_left
  generalize hfront : fitting config ⟨0, 0, 0⟩ ranked = front at *
  constructor
  · intro heq
    obtain ⟨others, hsorted, -⟩ := fitting_cut config ⟨0, 0, 0⟩ (ranked.sortBy sourceKey)
    rw [heq] at hsorted
    have hextends : front <+: (front ++ rest).sortBy sourceKey := by
      rw [← hcut]
      exact ⟨others, hsorted.symm⟩
    obtain ⟨hadmitted, hafter⟩ := List.sortBy_prefix_iff.mp hextends
    rw [hcut, List.sortBy_append_of_le hadmitted hafter, fitting_append hagain] at heq
    have hnil : fitting config (Used.addAll ⟨0, 0, 0⟩ front) (rest.sortBy sourceKey) = [] :=
      List.append_right_eq_self.mp heq
    constructor
    · rw [hfront]
      exact hadmitted
    · rw [hfront, hover]
      exact hafter
    · rw [hfront, hover]
      exact fitting_eq_nil.mp hnil
  · rintro ⟨hadmitted, hafter, hfull⟩
    rw [hfront] at hadmitted hafter hfull
    rw [hover] at hafter hfull
    rw [hcut, List.sortBy_append_of_le hadmitted hafter, fitting_append hagain,
      fitting_eq_nil.mpr hfull, List.append_nil]

/-! ## Section 3: The second call -/

/-- What the stores have in common: ids are looked up one by one. -/
structure LoadsById (reader : KnowledgeReader F) (find : String → Option KnowledgeChunk) :
    Prop where
  load_chunks : ∀ chunk_ids, reader.load_chunks chunk_ids = .ok (chunk_ids.filterMap find)
  keyed : ∀ {chunk_id chunk}, find chunk_id = some chunk → chunk.chunk_id = chunk_id

variable {r : HybridRetriever} {reader : KnowledgeReader F} {casefold : String → String}
  {query : RetrievalQuery}

/-- The chunks that the fresh path ranks for a query, in its order. -/
def rankedChunks (r : HybridRetriever) (reader : KnowledgeReader F) (query : RetrievalQuery) :
    Raises (List KnowledgeChunk) := do
  let c ← candidates r reader query
  pure ((selected r query c).map RetrievalHit.chunk)

/-- The chunks of an answer, in order. -/
def chunksOf (context : RetrievedContext F) : List KnowledgeChunk :=
  context.hits.map RetrievalHit.chunk

/-- The fresh path answers with what fits of its ranking, and caches the ids of
    all of it. -/
theorem answerFresh_ok {context : RetrievedContext F} {chunk_ids : List String}
    (h : answerFresh r reader casefold query = .ok (context, chunk_ids)) :
    ∃ ranked, rankedChunks r reader query = .ok ranked ∧
      chunksOf context = fitting r.config ⟨0, 0, 0⟩ ranked ∧
      chunk_ids = ranked.map KnowledgeChunk.chunk_id := by
  unfold answerFresh at h
  rw [bind_ok] at h
  obtain ⟨c, hc, h⟩ := h
  obtain ⟨rfl, rfl⟩ := Prod.mk.inj (pure_ok.mp h)
  refine ⟨(selected r query c).map RetrievalHit.chunk, ?_, ?_, ?_⟩
  · unfold rankedChunks
    rw [hc]
    rfl
  · exact map_chunk_takeBudget r.config ⟨0, 0, 0⟩ (selected r query c)
  · rw [List.map_map]
    rfl

/-- A ranking is no longer than `top_k`, and each of its chunks was loaded. -/
theorem rankedChunks_ok {ranked : List KnowledgeChunk}
    (h : rankedChunks r reader query = .ok ranked) :
    ranked.length ≤ r.config.top_k ∧ ∀ chunk ∈ ranked, Loaded reader query chunk := by
  unfold rankedChunks at h
  rw [bind_ok] at h
  obtain ⟨c, hc, h⟩ := h
  obtain rfl := pure_ok.mp h
  constructor
  · rw [List.length_map]
    unfold selected hitsFromChunks
    exact List.length_take_le _ _
  · intro chunk hchunk
    obtain ⟨hit, hhit, rfl⟩ := List.mem_map.mp hchunk
    have hselected := mem_selectDiverse (mem_hitsFromChunks hhit)
    exact candidates_loaded hc _ (List.mem_filter.mp hselected).1

omit [Score F] in
/-- A chunk that was loaded is found under its id. -/
theorem find_of_loaded {find : String → Option KnowledgeChunk} (hload : LoadsById reader find)
    {chunk : KnowledgeChunk} (h : Loaded reader query chunk) :
    find chunk.chunk_id = some chunk := by
  obtain ⟨-, chunk_ids, loaded, hloaded, hmem⟩ := h
  rw [hload.load_chunks] at hloaded
  obtain rfl := Except.ok.inj hloaded
  obtain ⟨chunk_id, -, hsome⟩ := List.mem_filterMap.mp hmem
  rw [hload.keyed hsome]
  exact hsome

omit [Score F] in
/-- Loading the ids of loaded chunks gives the same chunks, in the same order. -/
theorem authorizedChunks_reload {find : String → Option KnowledgeChunk}
    (hload : LoadsById reader find) {chunks : List KnowledgeChunk}
    (h : ∀ chunk ∈ chunks, Loaded reader query chunk) :
    authorizedChunks reader query (chunks.map KnowledgeChunk.chunk_id) = .ok chunks := by
  have hfind : ∀ chunk ∈ chunks, find chunk.chunk_id = some chunk :=
    fun chunk hchunk => find_of_loaded hload (h chunk hchunk)
  have hagain : (chunks.map KnowledgeChunk.chunk_id).filterMap find = chunks := by
    rw [List.filterMap_map]
    calc chunks.filterMap (find ∘ KnowledgeChunk.chunk_id)
        = chunks.filterMap some := List.filterMap_congr hfind
      _ = chunks := List.filterMap_some
  unfold authorizedChunks
  rw [hload.load_chunks, hagain]
  show Except.ok _ = _
  rw [List.filter_eq_self.mpr fun chunk hchunk => (h chunk hchunk).1]

omit [Score F] in
/-- Each chunk of a list finds the score that all of them have. -/
theorem lookup_score {chunks : List KnowledgeChunk} {chunk : KnowledgeChunk} (score : F)
    (h : chunk ∈ chunks) :
    (chunks.map fun chunk => (chunk.chunk_id, score)).lookup chunk.chunk_id = some score := by
  induction chunks with
  | nil => cases h
  | cons first chunks ih =>
    rw [List.map_cons, Table.lookup_row]
    by_cases hid : chunk.chunk_id = first.chunk_id
    · rw [if_pos hid]
    · rw [if_neg hid]
      apply ih
      rcases List.mem_cons.mp h with rfl | hmem
      · exact absurd rfl hid
      · exact hmem

/-- With one score for all, hits come in source order. -/
theorem chunks_hitsFromChunks_one {chunks : List KnowledgeChunk}
    (h : chunks.length ≤ r.config.top_k) :
    (hitsFromChunks r chunks (chunks.map fun chunk => (chunk.chunk_id, (1 : F)))).map
      RetrievalHit.chunk = chunks.sortBy sourceKey := by
  have hscore : ∀ chunk ∈ chunks,
      hitOf chunk (((chunks.map fun chunk => (chunk.chunk_id, (1 : F))).lookup
        chunk.chunk_id).getD 0) 1 = hitOf chunk 1 1 := by
    intro chunk hchunk
    rw [lookup_score (1 : F) hchunk]
    rfl
  have hkeys : ∀ a ∈ chunks, ∀ b ∈ chunks, sourceKey a ≤ sourceKey b ↔
      hitKey (hitOf a (1 : F) 1) ≤ hitKey (hitOf b (1 : F) 1) := by
    intro a _ b _
    -- The scores are equal, so the rest of the key decides.
    show sourceKey a ≤ sourceKey b ↔
      toLex (OrderDual.toDual (1 : F), sourceKey a) ≤ toLex (OrderDual.toDual (1 : F), sourceKey b)
    rw [Prod.Lex.toLex_le_toLex]
    simp
  unfold hitsFromChunks
  rw [List.map_congr_left hscore]
  simp only []
  rw [List.sortBy_map_of_le_iff hkeys, List.map_take, map_chunk_rerank, List.map_map,
    List.take_of_length_le]
  · exact List.map_id _
  · rw [List.length_map, List.length_sortBy]
    exact h

/-- What the second call answers. -/
theorem answerCached_ranked (casefold : String → String) {find : String → Option KnowledgeChunk}
    (hload : LoadsById reader find) {ranked : List KnowledgeChunk}
    (h : rankedChunks r reader query = .ok ranked) :
    ∃ context, answerCached r reader casefold query (ranked.map KnowledgeChunk.chunk_id) =
        .ok context ∧
      chunksOf context = fitting r.config ⟨0, 0, 0⟩ (ranked.sortBy sourceKey) := by
  obtain ⟨hlength, hloaded⟩ := rankedChunks_ok h
  unfold answerCached
  rw [authorizedChunks_reload hload hloaded]
  refine ⟨_, rfl, ?_⟩
  unfold chunksOf contextOf applyBudget
  rw [map_chunk_takeBudget, chunks_hitsFromChunks_one hlength]

/-- A call that misses takes the fresh path and fills the cache. -/
theorem retrieve_miss {cache before : InMemoryKVCache} {asked filled : Decimal} {n : Nat}
    (hn : reader.collection_revision query.collection = .ok n)
    (hmiss : cache.get (cacheKey r casefold query n) asked = (before, none)) :
    retrieve r reader casefold query cache asked filled =
      (answerFresh r reader casefold query).map fun answer =>
        (answer.1, before.set (cacheKey r casefold query n) answer.2 r.config.cache_ttl_seconds
          filled) := by
  unfold retrieve
  rw [hn]
  simp only [bind, Except.bind, hmiss, retrieveWith]
  cases answerFresh r reader casefold query with
  | error e => rfl
  | ok answer => rfl

/-- A call that finds an entry answers from it. -/
theorem retrieve_hit (cache : InMemoryKVCache) {filled later : Decimal} {n : Nat}
    {chunk_ids : List String} (later' : Decimal) (hn : reader.collection_revision query.collection = .ok n)
    (hlive : ¬ filled + r.config.cache_ttl_seconds ≤ later) :
    let kept := cache.set (cacheKey r casefold query n) chunk_ids r.config.cache_ttl_seconds filled
    retrieve r reader casefold query kept later later' =
      (answerCached r reader casefold query chunk_ids).map fun context => (context, kept) := by
  intro kept
  unfold retrieve
  rw [hn]
  simp only [bind, Except.bind, InMemoryKVCache.get_set _ _ _ hlive, kept, retrieveWith]
  cases answerCached r reader casefold query chunk_ids with
  | error e => rfl
  | ok context => rfl

/-- **Second answer**: a call that misses and the next one answer with the same
    chunks exactly when the ranking is in source order. -/
theorem retrieve_again_iff {find : String → Option KnowledgeChunk} (hload : LoadsById reader find)
    {cache cache' : InMemoryKVCache} {asked filled later later' : Decimal} {n : Nat}
    {context : RetrievedContext F} (hn : reader.collection_revision query.collection = .ok n)
    (hmiss : (cache.get (cacheKey r casefold query n) asked).2 = none)
    (h : retrieve r reader casefold query cache asked filled = .ok (context, cache'))
    (hlive : ¬ filled + r.config.cache_ttl_seconds ≤ later) :
    (∃ context' cache'', retrieve r reader casefold query cache' later later' =
        .ok (context', cache'') ∧ chunksOf context' = chunksOf context) ↔
      ∃ ranked, rankedChunks r reader query = .ok ranked ∧ InSourceOrder r.config ranked := by
  rw [retrieve_miss hn (Prod.ext rfl hmiss)] at h
  obtain ⟨⟨context, chunk_ids⟩, hfresh, hpair⟩ := map_ok.mp h
  obtain ⟨rfl, rfl⟩ := Prod.mk.inj hpair
  obtain ⟨ranked, hranked, hfirst, rfl⟩ := answerFresh_ok hfresh
  obtain ⟨second, hsecond, hchunks⟩ := answerCached_ranked casefold hload hranked
  rw [retrieve_hit _ later' hn hlive, hsecond]
  constructor
  · rintro ⟨context', cache'', heq, hsame⟩
    obtain ⟨rfl, -⟩ := Prod.mk.inj (Except.ok.inj heq)
    rw [hchunks, hfirst] at hsame
    exact ⟨ranked, hranked, fitting_sortBy_iff.mp hsame⟩
  · rintro ⟨ranked', hranked', horder⟩
    rw [hranked] at hranked'
    obtain rfl := Except.ok.inj hranked'
    refine ⟨second, _, rfl, ?_⟩
    rw [hchunks, hfirst]
    exact fitting_sortBy_iff.mpr horder

/-! ## Section 4: The two stores -/

/-- What retrieval reads, of one of the two stores. -/
inductive OfStore (casefold : String → String) : KnowledgeReader F → Prop where
  | memory (store : InMemoryKnowledgeStore) (similarity : List Decimal → List Decimal → F) :
    OfStore casefold (store.reader similarity casefold)
  | postgres (store : PostgresKnowledgeStore) (index : PostgresKnowledgeStore.SearchIndex F) :
    OfStore casefold (store.reader index)

theorem OfStore.loadsById (h : OfStore casefold reader) : ∃ find, LoadsById reader find := by
  cases h with
  | memory store similarity =>
    refine ⟨store.findChunk, fun _ => rfl, ?_⟩
    intro chunk_id chunk hfind
    exact Registry.key_of_get? (Option.filter_eq_some_iff.mp hfind).1
  | postgres store index =>
    refine ⟨store.findChunk, fun _ => rfl, ?_⟩
    intro chunk_id chunk hfind
    exact Registry.key_of_get? (Option.filter_eq_some_iff.mp hfind).1

/-- In either store, after a call that misses, the next call of the query before
    the entry expires returns the same chunks in the same order exactly when
    the store ranks the query's chunks in source order. -/
theorem cached_agrees_iff (hstore : OfStore casefold reader) {cache cache' : InMemoryKVCache}
    {asked filled later later' : Decimal} {n : Nat} {context : RetrievedContext F}
    (hn : reader.collection_revision query.collection = .ok n)
    (hmiss : (cache.get (cacheKey r casefold query n) asked).2 = none)
    (h : retrieve r reader casefold query cache asked filled = .ok (context, cache'))
    (hlive : ¬ filled + r.config.cache_ttl_seconds ≤ later) :
    (∃ context' cache'', retrieve r reader casefold query cache' later later' =
        .ok (context', cache'') ∧ chunksOf context' = chunksOf context) ↔
      ∃ ranked, rankedChunks r reader query = .ok ranked ∧ InSourceOrder r.config ranked := by
  obtain ⟨find, hload⟩ := hstore.loadsById
  exact retrieve_again_iff hload hn hmiss h hlive

def rotaQuery : RetrievalQuery := opsQuery ⟨"rota", isRequiredText_rota⟩

def reviewQuery : RetrievalQuery := opsQuery ⟨"review week", by decide⟩

def opsReader : KnowledgeReader ℚ := opsStore.reader sameLetter id

/-- The log alone is ranked for a review, so its entry answers like the first
    call. -/
theorem cached_agrees_review :
    ∃ context cache',
      retrieve (opsRetriever false) opsReader id reviewQuery InMemoryKVCache.empty (whole 3)
          (whole 3) = .ok (context, cache') ∧
      ∃ context' cache'',
        retrieve (opsRetriever false) opsReader id reviewQuery cache' (whole 4) (whole 4) =
            .ok (context', cache'') ∧ chunksOf context' = chunksOf context := by
  have hranked : rankedChunks (opsRetriever false) opsReader reviewQuery = .ok [logChunk] := by
    decide +kernel
  have hordered : InSourceOrder opsConfig [logChunk] := by
    constructor
    · decide +kernel
    · decide +kernel
    · decide +kernel
  have hfresh : (answerFresh (opsRetriever false) opsReader id reviewQuery).map (fun _ => ()) =
      .ok () := by
    decide +kernel
  obtain ⟨⟨context, chunk_ids⟩, hanswer, -⟩ := map_ok.mp hfresh
  have hmiss : InMemoryKVCache.empty.get (cacheKey (opsRetriever false) id reviewQuery 2)
      (whole 3) = (InMemoryKVCache.empty, none) := rfl
  have hfirst : retrieve (opsRetriever false) opsReader id reviewQuery InMemoryKVCache.empty
      (whole 3) (whole 3) = _ := retrieve_miss rfl hmiss
  rw [hanswer] at hfirst
  refine ⟨context, _, hfirst, ?_⟩
  exact (cached_agrees_iff (.memory opsStore sameLetter) rfl (congrArg Prod.snd hmiss) hfirst
    (by decide +kernel)).mpr ⟨_, hranked, hordered⟩

/-- Asked for "rota", the store ranks the log before the FAQ, and the entry of
    the cache is answered with the FAQ before the log. -/
theorem cached_order_differs :
    (∃ ts, IngestRun InMemoryKnowledgeStore.publisher InMemoryKnowledgeStore.empty ts
      ⟨opsStore, []⟩) ∧
    ∃ context cache' context' cache'',
      retrieve (opsRetriever true) opsReader id rotaQuery InMemoryKVCache.empty (whole 3)
          (whole 3) = .ok (context, cache') ∧
      retrieve (opsRetriever true) opsReader id rotaQuery cache' (whole 4) (whole 4) =
          .ok (context', cache'') ∧
      ¬ whole 3 + (opsRetriever true).config.cache_ttl_seconds ≤ whole 4 ∧
      context.diagnostics.cache_hit = false ∧ chunksOf context = [logChunk, faqChunk] ∧
      context'.diagnostics.cache_hit = true ∧ chunksOf context' = [faqChunk, logChunk] := by
  refine ⟨opsStore_reached, ?_⟩
  have hfresh : (answerFresh (opsRetriever true) opsReader id rotaQuery).map
      (fun answer => (chunksOf answer.1, answer.1.diagnostics.cache_hit, answer.2)) =
        .ok ([logChunk, faqChunk], false, [logId.val, faqId.val]) := by
    decide +kernel
  have hcached : (answerCached (opsRetriever true) opsReader id rotaQuery
      [logId.val, faqId.val]).map (fun context => (chunksOf context, context.diagnostics.cache_hit)) =
        .ok ([faqChunk, logChunk], true) := by
    decide +kernel
  have hlive : ¬ whole 3 + (opsRetriever true).config.cache_ttl_seconds ≤ whole 4 := by
    decide +kernel
  obtain ⟨⟨context, chunk_ids⟩, hanswer, hfields⟩ := map_ok.mp hfresh
  obtain ⟨hchunks, hrest⟩ := Prod.mk.inj hfields
  obtain ⟨hmissed, rfl⟩ := Prod.mk.inj hrest
  obtain ⟨context', hagain, hfields'⟩ := map_ok.mp hcached
  obtain ⟨hchunks', hhit⟩ := Prod.mk.inj hfields'
  have hmiss : InMemoryKVCache.empty.get (cacheKey (opsRetriever true) id rotaQuery 2)
      (whole 3) = (InMemoryKVCache.empty, none) := rfl
  have hfirst : retrieve (opsRetriever true) opsReader id rotaQuery InMemoryKVCache.empty
      (whole 3) (whole 3) = _ := retrieve_miss rfl hmiss
  rw [hanswer] at hfirst
  have hsecond : retrieve (opsRetriever true) opsReader id rotaQuery _ (whole 4) (whole 4) = _ :=
    (retrieve_hit InMemoryKVCache.empty (whole 4) rfl hlive).trans (congrArg (Except.map _) hagain)
  exact ⟨context, _, context', _, hfirst, hsecond, hlive, hmissed, hchunks, hhit, hchunks'⟩

end HybridRetriever

end CBrain.Knowledge
