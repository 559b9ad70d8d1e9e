import CBrain.Knowledge.CachePath
import CBrain.Knowledge.CollectionContents

/-! # What a cache key tells

    Retrievers that share a cache ask a store in the states of one history.
    The key of a call is made of the query, of the settings and of the revision
    of the collection.  It leaves out whether the graph is expanded, what the
    graph leads to, and how the text is embedded.

    * `DigestsTell` : the digests of two calls do not collide.
    * `SameOutside` : the calls are alike in what the key leaves out.
    * `SharedCache` : the calls that have used a cache. -/

namespace CBrain.Knowledge

open HybridRetriever
open InMemoryKnowledgeStore (SameAsker SameLimits)

/-! ## Section 1: What the digests hash -/

section payloads
variable {query query' : RetrievalQuery} {casefold : String → String}

/-- A query's payload names the asker and the words. -/
theorem sameAsker_of_payload (h : query.payload casefold = query'.payload casefold) :
    SameAsker query query' ∧
      casefold (normalizeText query.text.val) = casefold (normalizeText query'.text.val) := by
  have hfield (name : String) : (query.payload casefold).get name =
      (query'.payload casefold).get name := congrArg (fun d => d.get name) h
  unfold RetrievalQuery.payload at hfield
  have htenant := hfield "tenant_id"
  have hcollection := hfield "collection_id"
  have hprincipal := hfield "principal_id"
  have htext := hfield "text"
  simp [object_get, Json.get?_cons, Value.str] at htenant hcollection hprincipal htext
  exact ⟨⟨Subtype.ext htenant, Subtype.ext hcollection, Subtype.ext hprincipal⟩, htext⟩

/-- The settings' payload names the limits. -/
theorem sameLimits_of_payload {config config' : KnowledgeConfig}
    (h : config.retrievalPayload = config'.retrievalPayload) : SameLimits config config' := by
  have hfield (name : String) : config.retrievalPayload.get name =
      config'.retrievalPayload.get name := congrArg (fun d => d.get name) h
  unfold KnowledgeConfig.retrievalPayload at hfield
  simp only [object_get] at hfield
  constructor
  · simpa [Json.get?_cons, Value.nat] using hfield "top_k"
  · simpa [Json.get?_cons, Value.nat] using hfield "vector_candidate_count"
  · simpa [Json.get?_cons, Value.nat] using hfield "keyword_candidate_count"
  · simpa [Json.get?_cons, Value.nat] using hfield "graph_max_depth"
  · simpa [Json.get?_cons, Value.nat] using hfield "graph_max_nodes"
  · simpa [Json.get?_cons, Value.nat] using hfield "max_context_chunks"
  · simpa [Json.get?_cons, Value.nat] using hfield "max_context_bytes"
  · simpa [Json.get?_cons, Value.nat] using hfield "max_context_tokens"

end payloads

/-! ## Section 2: Calls that read the same -/

section alike
variable {F : Type} [Score F] {r r' : HybridRetriever} {reader reader' : KnowledgeReader F}
  {query query' : RetrievalQuery}

/-- Two calls read the same of their collections. -/
structure ReadsAlike (reader reader' : KnowledgeReader F) (query query' : RetrievalQuery) :
    Prop where
  search_vector : ∀ vector limit,
    reader.search_vector query.collection query.principal_id vector limit =
      reader'.search_vector query'.collection query'.principal_id vector limit
  search_keyword : ∀ limit,
    reader.search_keyword query.collection query.principal_id query.text.val limit =
      reader'.search_keyword query'.collection query'.principal_id query'.text.val limit
  load_chunks : ∀ chunk_ids,
    authorizedChunks reader query chunk_ids = authorizedChunks reader' query' chunk_ids

/-- From the chunks that the principal may read, two states of the graph lead to
    the same chunks. -/
def LeadsAlike (r : HybridRetriever) (query : RetrievalQuery)
    (reader reader' : KnowledgeReader F) : Prop :=
  ∀ chunks : List KnowledgeChunk, (∀ chunk ∈ chunks, Loaded reader query chunk) →
    graphExpand r reader query chunks = graphExpand r reader' query chunks

omit [Score F] in
/-- The graph is asked for the tenant, the principal and two limits. -/
theorem graphExpand_asker (hasker : SameAsker query query')
    (hlimits : SameLimits r.config r'.config) (chunks : List KnowledgeChunk) :
    graphExpand r reader query chunks = graphExpand r' reader query' chunks := by
  have hreadable : readable query = readable query' := by
    unfold readable
    rw [hasker.tenant_id, hasker.collection_id, hasker.principal_id]
  unfold graphExpand authorizedChunks
  rw [hreadable, hasker.tenant_id, hasker.principal_id, hlimits.graph_max_depth,
    hlimits.graph_max_nodes]

omit [Score F] in
theorem searches_alike (hread : ReadsAlike reader reader' query query')
    (hlimits : SameLimits r.config r'.config)
    (hvector : r.queryVector query = r'.queryVector query') :
    searches r reader query = searches r' reader' query' := by
  unfold searches
  rw [hvector, hlimits.vector_candidate_count, hlimits.keyword_candidate_count]
  congr 1
  funext vector
  rw [hread.search_vector, hread.search_keyword]

omit [Score F] in
/-- The budget is three limits. -/
theorem takeBudget_congr {config config' : KnowledgeConfig} (h : SameLimits config config')
    (used : Used) (hits : List (RetrievalHit F)) :
    takeBudget config used hits = takeBudget config' used hits := by
  induction hits generalizing used with
  | nil => rfl
  | cons hit hits ih =>
    have hfits : used.fits config hit.chunk = used.fits config' hit.chunk := by
      unfold Used.fits
      rw [h.max_context_chunks, h.max_context_bytes, h.max_context_tokens]
    rw [takeBudget, takeBudget, hfits, ih]

/-- Calls that are asked by the same principal, with the same limits and vector,
    and read the same, have the same fresh answer. -/
theorem answerFresh_congr {casefold : String → String} (hasker : SameAsker query query')
    (hlimits : SameLimits r.config r'.config)
    (hdigest : query.digest casefold = query'.digest casefold)
    (hvector : r.queryVector query = r'.queryVector query')
    (hexpand : r.expand_graph = r'.expand_graph) (hread : ReadsAlike reader reader' query query')
    (hgraph : r.expand_graph = true → LeadsAlike r query reader reader') :
    answerFresh r reader casefold query = answerFresh r' reader' casefold query' := by
  have hcandidates : candidates r reader query = candidates r' reader' query' := by
    apply candidates_congr (searches_alike hread hlimits hvector) hread.load_chunks hexpand
    intro he chunk_ids chunks hchunks
    rw [hgraph he chunks (authorizedChunks_loaded hchunks), graphExpand_asker hasker hlimits]
  have hselected (c : Candidates F) : selected r query c = selected r' query' c := by
    unfold selected hitsFromChunks
    rw [hasker.principal_id, hlimits.max_context_chunks, hlimits.top_k]
  have hcontext (hits : List (RetrievalHit F)) (n m k : Nat) :
      contextOf r casefold query hits false n m k = contextOf r' casefold query' hits false n m k := by
    unfold contextOf applyBudget
    rw [takeBudget_congr hlimits, hdigest]
  unfold answerFresh
  rw [hcandidates]
  simp only [hselected, hcontext]

end alike

/-! ## Section 3: The two stores -/

section memory
open InMemoryKnowledgeStore
variable {F : Type} [Score F] {store store' : InMemoryKnowledgeStore}
  {similarity : List Decimal → List Decimal → F} {casefold : String → String}
  {query query' : RetrievalQuery}

/-- The keyword search looks at the normalised words only. -/
theorem InMemoryKnowledgeStore.readsAlike (hasker : SameAsker query query')
    (hwords : casefold (normalizeText query.text.val) = casefold (normalizeText query'.text.val))
    (h : InMemoryKnowledgeStore.SameCollection query.collection store store') :
    ReadsAlike (store.reader similarity casefold) (store'.reader similarity casefold) query
      query' := by
  have hagree := h.agree query.principal_id
  have hcollection : query.collection = query'.collection := by
    unfold RetrievalQuery.collection
    rw [hasker.tenant_id, hasker.collection_id]
  have hterms : queryTerms casefold query.text.val = queryTerms casefold query'.text.val := by
    unfold queryTerms
    rw [hwords]
  constructor
  · intro vector limit
    show store.searchVector similarity _ _ _ _ = store'.searchVector similarity _ _ _ _
    rw [hagree.searchVector, hcollection, hasker.principal_id]
  · intro limit
    show Except.ok (store.searchKeyword casefold _ _ _ _) =
      Except.ok (store'.searchKeyword casefold _ _ _ _)
    rw [hagree.searchKeyword hterms, hcollection, hasker.principal_id]
  · exact authorizedChunks_congr hasker hagree

end memory

section postgres
open PostgresKnowledgeStore
variable {F : Type} {store store' : PostgresKnowledgeStore} {query query' : RetrievalQuery}

/-- What the statements of the two searches say: the rows they rank are the live
    chunks of the collection, and their embeddings. -/
structure PostgresKnowledgeStore.SearchIndex.ReadsCollection (index : SearchIndex F) : Prop where
  search_vector : ∀ {collection store store'},
    PostgresKnowledgeStore.SameCollection collection store store' → ∀ principal_id vector limit,
      index.search_vector store collection principal_id vector limit =
        index.search_vector store' collection principal_id vector limit
  search_keyword : ∀ {collection store store'},
    PostgresKnowledgeStore.SameCollection collection store store' → ∀ principal_id text limit,
      index.search_keyword store collection principal_id text limit =
        index.search_keyword store' collection principal_id text limit

/-- What passes the check of `_authorized_chunks` is of the query's collection. -/
theorem collection_of_readable {chunk : KnowledgeChunk} (h : readable query chunk = true) :
    chunk.key.collection = query.collection := by
  unfold readable at h
  simp only [Bool.and_eq_true, decide_eq_true_eq] at h
  obtain ⟨⟨htenant, hcollection⟩, -⟩ := h
  unfold KnowledgeChunk.key SourceKey.collection RetrievalQuery.collection
  rw [htenant, hcollection]

theorem PostgresKnowledgeStore.readsAlike {index : SearchIndex F} (hindex : index.ReadsCollection)
    (hasker : SameAsker query query')
    (hwords : ∀ limit, index.search_keyword store' query'.collection query'.principal_id
        query.text.val limit =
      index.search_keyword store' query'.collection query'.principal_id query'.text.val limit)
    (h : PostgresKnowledgeStore.SameCollection query.collection store store') :
    ReadsAlike (store.reader index) (store'.reader index) query query' := by
  have hcollection : query.collection = query'.collection := by
    unfold RetrievalQuery.collection
    rw [hasker.tenant_id, hasker.collection_id]
  constructor
  · intro vector limit
    show index.search_vector store _ _ _ _ = index.search_vector store' _ _ _ _
    rw [hindex.search_vector h, hcollection, hasker.principal_id]
  · intro limit
    show index.search_keyword store _ _ _ _ = index.search_keyword store' _ _ _ _
    rw [hindex.search_keyword h, hcollection, hasker.principal_id, hwords]
  · intro chunk_ids
    have hreadable : readable query = readable query' := by
      unfold readable
      rw [hasker.tenant_id, hasker.collection_id, hasker.principal_id]
    show Except.ok ((chunk_ids.filterMap store.findChunk).filter (readable query)) =
      Except.ok ((chunk_ids.filterMap store'.findChunk).filter (readable query'))
    rw [← hreadable, List.filter_filterMap, List.filter_filterMap]
    congr 2
    funext chunk_id
    apply Option.ext
    intro chunk
    rw [Option.filter_eq_some_iff, Option.filter_eq_some_iff]
    constructor
    · rintro ⟨hfind, hread⟩
      exact ⟨(h.chunks _ _ (collection_of_readable hread)).mp hfind, hread⟩
    · rintro ⟨hfind, hread⟩
      exact ⟨(h.chunks _ _ (collection_of_readable hread)).mpr hfind, hread⟩

end postgres

/-! ## Section 4: Calls that share a cache -/

/-- A call of `retrieve`. -/
structure Call (F : Type) where
  reader : KnowledgeReader F
  retriever : HybridRetriever
  query : RetrievalQuery

section calls
variable {F : Type} [Score F] (casefold : String → String)

/-- The key that the call asks the cache for. -/
def Call.key (c : Call F) : Raises CacheKey := do
  let collection_revision ← c.reader.collection_revision c.query.collection
  pure (cacheKey c.retriever casefold c.query collection_revision)

/-- The call's answer without the cache, and the ids it would store. -/
def Call.fresh (c : Call F) : Raises (RetrievedContext F × List String) :=
  answerFresh c.retriever c.reader casefold c.query

/-- The calls use the same entry of a cache. -/
def SameEntry (a c : Call F) : Prop :=
  ∃ k k', a.key casefold = .ok k ∧ c.key casefold = .ok k' ∧ k.encoded = k'.encoded

/-- No two of the texts that the keys of two calls hash collide. -/
structure DigestsTell (a c : Call F) : Prop where
  keys : ∀ {k k'}, a.key casefold = .ok k → c.key casefold = .ok k' →
    k.encoded = k'.encoded → k = k'
  queries : a.query.digest casefold = c.query.digest casefold →
    a.query.payload casefold = c.query.payload casefold
  settings : a.retriever.config.retrievalDigest = c.retriever.config.retrievalDigest →
    a.retriever.config.retrievalPayload = c.retriever.config.retrievalPayload

/-- The calls are alike in what the key leaves out: both expand the graph or
    none does, the texts have the same vector, and the graph that is expanded
    leads to the same chunks. -/
structure SameOutside (a c : Call F) : Prop where
  expand_graph : a.retriever.expand_graph = c.retriever.expand_graph
  query_vector : a.retriever.queryVector a.query = c.retriever.queryVector c.query
  graph : a.retriever.expand_graph = true → LeadsAlike a.retriever a.query a.reader c.reader

/-- The second call is made in a state of the history of the first one's, or in
    the same state.  In PostgreSQL the two texts are searched alike. -/
inductive OneHistory : Call F → Call F → Prop where
  | memory {ts later : List (IngestTransition InMemoryKnowledgeStore)}
      {st st' : IngestState InMemoryKnowledgeStore} {r r' : HybridRetriever}
      {query query' : RetrievalQuery} (similarity : List Decimal → List Decimal → F)
      (hrun : IngestRun InMemoryKnowledgeStore.publisher InMemoryKnowledgeStore.empty ts st)
      (hrun' : IngestRun InMemoryKnowledgeStore.publisher InMemoryKnowledgeStore.empty
        (ts ++ later) st')
      (hapart : IdsApart (ts ++ later)) :
      OneHistory ⟨st.store.reader similarity casefold, r, query⟩
        ⟨st'.store.reader similarity casefold, r', query'⟩
  | postgres {ts later : List (IngestTransition PostgresKnowledgeStore)}
      {st st' : IngestState PostgresKnowledgeStore} {r r' : HybridRetriever}
      {query query' : RetrievalQuery} {index : PostgresKnowledgeStore.SearchIndex F}
      (hindex : index.ReadsCollection)
      (hrun : IngestRun PostgresKnowledgeStore.publisher PostgresKnowledgeStore.empty ts st)
      (hrun' : IngestRun PostgresKnowledgeStore.publisher PostgresKnowledgeStore.empty
        (ts ++ later) st')
      (hwords : ∀ limit, index.search_keyword st'.store query'.collection query'.principal_id
          query.text.val limit =
        index.search_keyword st'.store query'.collection query'.principal_id query'.text.val
          limit) :
      OneHistory ⟨st.store.reader index, r, query⟩ ⟨st'.store.reader index, r', query'⟩

/-- The calls that have used a cache, and what it holds. -/
inductive SharedCache : List (Call F) → InMemoryKVCache → Prop where
  | start : SharedCache [] InMemoryKVCache.empty
  | answered {calls : List (Call F)} {cache cache' : InMemoryKVCache} {c : Call F}
      {asked filled : Decimal} {context : RetrievedContext F} (hcalls : SharedCache calls cache)
      (h : retrieve c.retriever c.reader casefold c.query cache asked filled =
        .ok (context, cache')) :
      SharedCache (calls ++ [c]) cache'
  /-- A call that raises may have dropped its expired entry. -/
  | raised {calls : List (Call F)} {cache : InMemoryKVCache} {c : Call F} {key : CacheKey}
      {asked filled : Decimal} {e : Exn} (hcalls : SharedCache calls cache)
      (hkey : c.key casefold = .ok key)
      (h : retrieve c.retriever c.reader casefold c.query cache asked filled = .error e) :
      SharedCache (calls ++ [c]) (cache.get key asked).1

/-- Each entry holds what the fresh path of one of the calls would store. -/
def Filled (calls : List (Call F)) (cache : InMemoryKVCache) : Prop :=
  ∀ encoded expires_at chunk_ids, cache.entries.get? encoded = some (expires_at, chunk_ids) →
    ∃ a ∈ calls, ∃ k context, a.key casefold = .ok k ∧ k.encoded = encoded ∧
      a.fresh casefold = .ok (context, chunk_ids)

variable {casefold} {calls : List (Call F)} {cache cache' : InMemoryKVCache}

theorem Filled.mono {calls' : List (Call F)} (h : Filled casefold calls cache)
    (hsub : ∀ a ∈ calls, a ∈ calls') : Filled casefold calls' cache := by
  intro encoded expires_at chunk_ids hentry
  obtain ⟨a, ha, hfilled⟩ := h encoded expires_at chunk_ids hentry
  exact ⟨a, hsub a ha, hfilled⟩

/-- To ask a cache drops at most one entry. -/
theorem get_entries {key : CacheKey} {asked : Decimal} {encoded : String}
    {entry : Decimal × List String}
    (h : (cache.get key asked).1.entries.get? encoded = some entry) :
    cache.entries.get? encoded = some entry := by
  unfold InMemoryKVCache.get at h
  cases hentry : cache.entries.get? key.encoded with
  | none =>
    rw [hentry] at h
    exact h
  | some found =>
    obtain ⟨expires_at, value⟩ := found
    simp only [hentry] at h
    by_cases hexpired : expires_at ≤ asked
    · rw [if_pos hexpired, Table.get?_erase] at h
      by_cases hsame : encoded = key.encoded
      · rw [if_pos hsame] at h
        cases h
      · rw [if_neg hsame] at h
        exact h
    · rw [if_neg hexpired] at h
      exact h

/-- What is found under a key is an entry. -/
theorem entry_of_get {key : CacheKey} {asked : Decimal} {chunk_ids : List String}
    (h : (cache.get key asked).2 = some chunk_ids) :
    ∃ expires_at, cache.entries.get? key.encoded = some (expires_at, chunk_ids) := by
  unfold InMemoryKVCache.get at h
  cases hentry : cache.entries.get? key.encoded with
  | none =>
    rw [hentry] at h
    cases h
  | some found =>
    obtain ⟨expires_at, value⟩ := found
    simp only [hentry] at h
    by_cases hexpired : expires_at ≤ asked
    · rw [if_pos hexpired] at h
      cases h
    · rw [if_neg hexpired] at h
      obtain rfl := Option.some.inj h
      exact ⟨expires_at, rfl⟩

/-- What a call does to the cache: a hit drops nothing, and a miss stores what
    the fresh path answers. -/
theorem retrieve_cache {c : Call F} {asked filled : Decimal} {context : RetrievedContext F}
    (h : retrieve c.retriever c.reader casefold c.query cache asked filled =
      .ok (context, cache')) :
    ∃ key, c.key casefold = .ok key ∧
      (cache' = (cache.get key asked).1 ∨
        ∃ chunk_ids, c.fresh casefold = .ok (context, chunk_ids) ∧
          cache' = (cache.get key asked).1.set key chunk_ids
            c.retriever.config.cache_ttl_seconds filled) := by
  unfold retrieve at h
  rw [bind_ok] at h
  obtain ⟨collection_revision, hrevision, h⟩ := h
  refine ⟨cacheKey c.retriever casefold c.query collection_revision, ?_, ?_⟩
  · unfold Call.key
    rw [hrevision]
    rfl
  · simp only at h
    rw [bind_ok] at h
    obtain ⟨⟨context', stored⟩, hanswer, h⟩ := h
    cases stored with
    | none =>
      obtain ⟨-, rfl⟩ := Prod.mk.inj (pure_ok.mp h)
      exact Or.inl rfl
    | some chunk_ids =>
      obtain ⟨rfl, rfl⟩ := Prod.mk.inj (pure_ok.mp h)
      refine Or.inr ⟨chunk_ids, ?_, rfl⟩
      -- Only the fresh path stores ids.
      generalize (cache.get _ asked).2 = cached at hanswer
      cases cached with
      | some cached_ids =>
        unfold retrieveWith at hanswer
        rw [bind_ok] at hanswer
        obtain ⟨_, -, hpair⟩ := hanswer
        cases pure_ok.mp hpair
      | none =>
        unfold retrieveWith at hanswer
        rw [bind_ok] at hanswer
        obtain ⟨⟨fresh, ids⟩, hfresh, hpair⟩ := hanswer
        obtain ⟨rfl, hids⟩ := Prod.mk.inj (pure_ok.mp hpair)
        obtain rfl := Option.some.inj hids
        exact hfresh

/-- **Run**: a shared cache is filled by the fresh paths of its calls. -/
theorem filled_of_shared (h : SharedCache casefold calls cache) : Filled casefold calls cache := by
  induction h with
  | start =>
    intro encoded expires_at chunk_ids hentry
    cases hentry
  | @answered calls cache cache' c asked filled context hcalls hanswer ih =>
    have hold : Filled casefold (calls ++ [c]) cache :=
      ih.mono fun a ha => List.mem_append_left [c] ha
    obtain ⟨key, hkey, rfl | ⟨ids, hfresh, rfl⟩⟩ := retrieve_cache hanswer
    · intro encoded expires_at chunk_ids hentry
      exact hold encoded expires_at chunk_ids (get_entries hentry)
    · intro encoded expires_at chunk_ids hentry
      unfold InMemoryKVCache.set at hentry
      rw [Table.get?_set] at hentry
      by_cases hsame : encoded = key.encoded
      · rw [if_pos hsame] at hentry
        obtain ⟨-, rfl⟩ := Prod.mk.inj (Option.some.inj hentry)
        exact ⟨c, List.mem_append_right calls List.mem_cons_self, key, context, hkey, hsame.symm,
          hfresh⟩
      · rw [if_neg hsame] at hentry
        exact hold encoded expires_at chunk_ids (get_entries hentry)
  | @raised calls cache c key asked filled e hcalls hkey hraised ih =>
    intro encoded expires_at chunk_ids hentry
    obtain ⟨a, ha, hfilled⟩ := ih encoded expires_at chunk_ids (get_entries hentry)
    exact ⟨a, List.mem_append_left [c] ha, hfilled⟩

/-! ## Section 5: Keys and answers -/

omit [Score F] in
/-- What two calls share that have one key. -/
theorem shared_of_keys {a c : Call F} {n n' : Nat} (hdigests : DigestsTell casefold a c)
    (hn : a.reader.collection_revision a.query.collection = .ok n)
    (hn' : c.reader.collection_revision c.query.collection = .ok n')
    (hentry : SameEntry casefold a c) :
    SameAsker a.query c.query ∧ SameLimits a.retriever.config c.retriever.config ∧
      casefold (normalizeText a.query.text.val) = casefold (normalizeText c.query.text.val) ∧
      a.query.digest casefold = c.query.digest casefold ∧ n = n' ∧
      a.query.collection = c.query.collection := by
  obtain ⟨k, k', hk, hk', hencoded⟩ := hentry
  have hkeys : k = k' := hdigests.keys hk hk' hencoded
  unfold Call.key at hk hk'
  rw [hn] at hk
  rw [hn'] at hk'
  rw [← Except.ok.inj hk, ← Except.ok.inj hk'] at hkeys
  have hdigest : a.query.digest casefold = c.query.digest casefold :=
    congrArg CacheKey.query_digest hkeys
  have hsettings : a.retriever.config.retrievalDigest = c.retriever.config.retrievalDigest :=
    congrArg CacheKey.retrieval_config_digest hkeys
  obtain ⟨hasker, hwords⟩ := sameAsker_of_payload (hdigests.queries hdigest)
  refine ⟨hasker, sameLimits_of_payload (hdigests.settings hsettings), hwords, hdigest,
    congrArg CacheKey.collection_revision hkeys, ?_⟩
  unfold RetrievalQuery.collection
  rw [hasker.tenant_id, hasker.collection_id]

/-- Calls of one history with one key read the same. -/
theorem readsAlike_of_keys {a c : Call F} (hhistory : OneHistory casefold a c)
    (hdigests : DigestsTell casefold a c) (hentry : SameEntry casefold a c) :
    SameAsker a.query c.query ∧ SameLimits a.retriever.config c.retriever.config ∧
      a.query.digest casefold = c.query.digest casefold ∧
      ReadsAlike a.reader c.reader a.query c.query := by
  cases hhistory with
  | @memory ts later st st' r r' query query' similarity hrun hrun' hapart =>
    obtain ⟨hasker, hlimits, hwords, hdigest, hrevision, hcollection⟩ :=
      shared_of_keys hdigests rfl rfl hentry
    refine ⟨hasker, hlimits, hdigest, InMemoryKnowledgeStore.readsAlike hasker hwords ?_⟩
    change st.store.collectionRevision query.collection =
      st'.store.collectionRevision query'.collection at hrevision
    change query.collection = query'.collection at hcollection
    rw [← hcollection] at hrevision
    rcases InMemoryKnowledgeStore.tells_run hrun hrun' hapart query.collection with
      hlt | ⟨-, hsame⟩
    · omega
    · exact hsame
  | @postgres ts later st st' r r' query query' index hindex hrun hrun' hwords =>
    obtain ⟨hasker, hlimits, -, hdigest, hrevision, hcollection⟩ :=
      shared_of_keys hdigests rfl rfl hentry
    refine ⟨hasker, hlimits, hdigest,
      PostgresKnowledgeStore.readsAlike hindex hasker hwords ?_⟩
    change st.store.collectionRevision query.collection =
      st'.store.collectionRevision query'.collection at hrevision
    change query.collection = query'.collection at hcollection
    rw [← hcollection] at hrevision
    rcases PostgresKnowledgeStore.tells_run hrun hrun' query.collection with hlt | ⟨-, hsame⟩
    · omega
    · exact hsame

/-- Two calls with one key, alike in what the key leaves out, have one answer. -/
theorem fresh_eq {a c : Call F} (hhistory : OneHistory casefold a c)
    (hdigests : DigestsTell casefold a c) (hentry : SameEntry casefold a c)
    (houtside : SameOutside a c) : a.fresh casefold = c.fresh casefold := by
  obtain ⟨hasker, hlimits, hdigest, hread⟩ := readsAlike_of_keys hhistory hdigests hentry
  exact answerFresh_congr hasker hlimits hdigest houtside.query_vector houtside.expand_graph hread
    houtside.graph

/-- A call of one history and one key with earlier calls has their fresh
    answer, and an entry of the shared cache that it is answered from holds what
    its own fresh path would store, when the calls of its key are alike in what
    the key leaves out. -/
theorem equal_keys_answer_alike {calls : List (Call F)} {cache : InMemoryKVCache} {c : Call F}
    (hcalls : SharedCache casefold calls cache) (hhistory : ∀ a ∈ calls, OneHistory casefold a c)
    (hdigests : ∀ a ∈ calls, DigestsTell casefold a c)
    (houtside : ∀ a ∈ calls, SameEntry casefold a c → SameOutside a c) :
    (∀ a ∈ calls, SameEntry casefold a c → a.fresh casefold = c.fresh casefold) ∧
      ∀ {key asked chunk_ids}, c.key casefold = .ok key →
        (cache.get key asked).2 = some chunk_ids →
          ∃ context, c.fresh casefold = .ok (context, chunk_ids) := by
  have hfresh : ∀ a ∈ calls, SameEntry casefold a c → a.fresh casefold = c.fresh casefold := by
    intro a ha hentry
    exact fresh_eq (hhistory a ha) (hdigests a ha) hentry (houtside a ha hentry)
  refine ⟨hfresh, ?_⟩
  intro key asked chunk_ids hkey hfound
  obtain ⟨expires_at, hentry⟩ := entry_of_get hfound
  obtain ⟨a, ha, k, context, hk, hencoded, hanswer⟩ :=
    filled_of_shared hcalls _ _ _ hentry
  refine ⟨context, ?_⟩
  rw [← hfresh a ha ⟨k, key, hk, hkey, hencoded⟩]
  exact hanswer

end calls

/-- The two documents are published into one collection. -/
theorem opsStore_history :
    ∃ ts, IngestRun InMemoryKnowledgeStore.publisher InMemoryKnowledgeStore.empty ts
      ⟨opsStore, []⟩ ∧ IdsApart ts := by
  have heq := opsRun_eq
  unfold opsRun at heq
  rw [bind_ok] at heq
  obtain ⟨⟨first, result₁⟩, hfirst, heq⟩ := heq
  rw [bind_ok] at heq
  obtain ⟨⟨second, result₂⟩, hsecond, heq⟩ := heq
  obtain rfl := pure_ok.mp heq
  obtain ⟨ts₁, hrun₁, hdocument₁⟩ := IngestRun.nil.ingest_document hfirst
  obtain ⟨ts₂, hrun₂, hdocument₂⟩ := hrun₁.ingest_document hsecond
  refine ⟨_, hrun₂, ?_⟩
  have hone : ∀ t ∈ [] ++ ts₁ ++ ts₂, ∀ p, t.event = .finish p →
      p.publication.key.collection = faqDocument.key.collection := by
    intro t ht p hevent
    rw [List.nil_append] at ht
    unfold Publication.key
    rcases List.mem_append.mp ht with ht | ht
    · rw [hdocument₁ t ht p hevent]
    · rw [hdocument₂ t ht p hevent]
      rfl
  intro t ht u hu p q hp hq hne
  rw [hone t ht p hp, hone u hu q hq] at hne
  exact absurd rfl hne


/-- The question about the review, without and with the graph. -/
def reviewCall (expand_graph : Bool) : Call ℚ := ⟨opsReader, opsRetriever expand_graph, reviewQuery⟩

/-- The same question with more blanks. -/
def spacedCall : Call ℚ :=
  { reviewCall true with query := opsQuery ⟨"review   week", by decide⟩ }

/-- The key of both. -/
def reviewKey : CacheKey := cacheKey (opsRetriever true) id reviewQuery 2

/-- The cache after a question about the review. -/
theorem shared_review (expand_graph : Bool) :
    ∃ context chunk_ids, (reviewCall expand_graph).fresh id = .ok (context, chunk_ids) ∧
      SharedCache id [reviewCall expand_graph]
        (InMemoryKVCache.empty.set reviewKey chunk_ids opsConfig.cache_ttl_seconds (whole 3)) := by
  have hanswered : ((reviewCall expand_graph).fresh id).map (fun _ => ()) = .ok () := by
    cases expand_graph <;> decide +kernel
  obtain ⟨⟨context, chunk_ids⟩, hfresh, -⟩ := map_ok.mp hanswered
  refine ⟨context, chunk_ids, hfresh, ?_⟩
  have hmiss : InMemoryKVCache.empty.get (cacheKey (opsRetriever expand_graph) id reviewQuery 2)
      (whole 3) = (InMemoryKVCache.empty, none) := rfl
  have hretrieve : retrieve (opsRetriever expand_graph) opsReader id reviewQuery
      InMemoryKVCache.empty (whole 3) (whole 3) = _ := retrieve_miss rfl hmiss
  change answerFresh (opsRetriever expand_graph) opsReader id reviewQuery = _ at hfresh
  rw [hfresh] at hretrieve
  exact SharedCache.answered (c := reviewCall expand_graph) SharedCache.start hretrieve

/-- The spaced question is answered from the entry of the other one. -/
theorem equal_keys_answer_spaced :
    ∃ context chunk_ids, (reviewCall true).fresh id = .ok (context, chunk_ids) ∧
      spacedCall.fresh id = .ok (context, chunk_ids) ∧ spacedCall.key id = .ok reviewKey := by
  obtain ⟨ts, hrun, hapart⟩ := opsStore_history
  obtain ⟨context, chunk_ids, hfresh, hcalls⟩ := shared_review true
  have hpayload : reviewQuery.payload id = spacedCall.query.payload id := by decide +kernel
  have hdigest : reviewQuery.digest id = spacedCall.query.digest id :=
    congrArg sha256HexOf hpayload
  have hkey : spacedCall.key id = .ok reviewKey := by
    show Except.ok (cacheKey (opsRetriever true) id spacedCall.query 2) = _
    unfold reviewKey cacheKey
    rw [← hdigest]
    rfl
  have hhistory : OneHistory id (reviewCall true) spacedCall := by
    have hsame : IngestRun InMemoryKnowledgeStore.publisher InMemoryKnowledgeStore.empty (ts ++ [])
        ⟨opsStore, []⟩ := by
      rw [List.append_nil]
      exact hrun
    exact .memory sameLetter hrun hsame (by rw [List.append_nil]; exact hapart)
  have hdigests : DigestsTell id (reviewCall true) spacedCall := by
    constructor
    · intro k k' hk hk' _
      rw [hkey] at hk'
      rw [← Except.ok.inj hk, ← Except.ok.inj hk']
      rfl
    · exact fun _ => hpayload
    · exact fun _ => rfl
  have houtside : SameOutside (reviewCall true) spacedCall :=
    ⟨rfl, by decide +kernel, fun _ _ _ => rfl⟩
  have hone : ∀ {P : Call ℚ → Prop}, P (reviewCall true) → ∀ a ∈ [reviewCall true], P a := by
    intro P h a ha
    rw [List.mem_singleton.mp ha]
    exact h
  obtain ⟨halike, -⟩ := equal_keys_answer_alike hcalls (hone hhistory) (hone hdigests)
    (hone fun _ => houtside)
  refine ⟨context, chunk_ids, hfresh, ?_, hkey⟩
  rw [← halike _ List.mem_cons_self ⟨reviewKey, reviewKey, rfl, hkey, rfl⟩]
  exact hfresh

/-- Without the graph the log alone answers the question about the review, with
    it the FAQ too; the key is the same, and the entry of the first call answers
    the second one with the log alone. -/
theorem expansion_not_in_key :
    (∃ ts, IngestRun InMemoryKnowledgeStore.publisher InMemoryKnowledgeStore.empty ts
      ⟨opsStore, []⟩) ∧
    (reviewCall false).key id = (reviewCall true).key id ∧
    ∃ plain expanded ids ids',
      (reviewCall false).fresh id = .ok (plain, ids) ∧ chunksOf plain = [logChunk] ∧
      (reviewCall true).fresh id = .ok (expanded, ids') ∧
        chunksOf expanded = [faqChunk, logChunk] ∧
      ∃ cache context cache',
        SharedCache id [reviewCall false] cache ∧
        retrieve (opsRetriever true) opsReader id reviewQuery cache (whole 4) (whole 4) =
          .ok (context, cache') ∧
        context.diagnostics.cache_hit = true ∧ chunksOf context = [logChunk] := by
  refine ⟨opsStore_reached, rfl, ?_⟩
  have hplain : ((reviewCall false).fresh id).map (fun answer => (chunksOf answer.1, answer.2)) =
      .ok ([logChunk], [logId.val]) := by
    decide +kernel
  have hexpanded : ((reviewCall true).fresh id).map (fun answer => chunksOf answer.1) =
      .ok [faqChunk, logChunk] := by
    decide +kernel
  have hcached : (answerCached (opsRetriever true) opsReader id reviewQuery [logId.val]).map
      (fun context => (chunksOf context, context.diagnostics.cache_hit)) =
        .ok ([logChunk], true) := by
    decide +kernel
  obtain ⟨plain, ids, hfresh, hcalls⟩ := shared_review false
  obtain ⟨⟨expanded, ids'⟩, hfresh', hchunks'⟩ := map_ok.mp hexpanded
  obtain ⟨context, hagain, hfields⟩ := map_ok.mp hcached
  obtain ⟨hchunks, hhit⟩ := Prod.mk.inj hfields
  rw [hfresh] at hplain
  obtain ⟨hlog, hids⟩ := Prod.mk.inj (Except.ok.inj hplain)
  have hlive : ¬ whole 3 + (opsRetriever true).config.cache_ttl_seconds ≤ whole 4 := by
    decide +kernel
  have hanswer : retrieve (opsRetriever true) opsReader id reviewQuery _ (whole 4) (whole 4) = _ :=
    (retrieve_hit InMemoryKVCache.empty (whole 4) rfl hlive).trans (congrArg (Except.map _) hagain)
  obtain rfl : ids = [logId.val] := hids
  exact ⟨plain, expanded, _, ids', hfresh, hlog, hfresh', hchunks', _, context, _, hcalls, hanswer,
    hhit, hchunks⟩

end CBrain.Knowledge
