import CBrain.Knowledge.CacheKeys
import CBrain.Knowledge.FusedTerms

/-! # How much retrieval returns

    The hits of both paths are cut after `config.top_k` of them and then at the
    first that is over the budget.  `query.top_k` is checked, hashed and part
    of the key of the cache, and nothing is cut at it.

    * `WithinLimits` : what the query and the settings allow.
    * `mostHits`     : how many hits there can be.
    * `crowdStore`   : a collection that is answered with as many. -/

namespace CBrain.Knowledge

/-! ## Section 1: Selection -/

theorem nodup_chooseDiverse {limit : Nat} {chosen : List KnowledgeChunk}
    {seen_sources : List RequiredText} {chunks : List KnowledgeChunk}
    (h : (chosen ++ chunks).Nodup) :
    (chooseDiverse limit chosen seen_sources chunks).1.Nodup := by
  induction chunks generalizing chosen seen_sources with
  | nil =>
    rw [List.append_nil] at h
    exact h
  | cons chunk chunks ih =>
    have hmoved : (chosen ++ [chunk] ++ chunks).Nodup := by
      rw [List.append_assoc, List.singleton_append]
      exact h
    rw [chooseDiverse]
    by_cases hwait : chunk.source_id ∈ seen_sources ∧ chosen.length < limit
    · rw [if_pos hwait]
      exact ih (h.sublist ((List.sublist_cons_self chunk chunks).append_left chosen))
    · rw [if_neg hwait]
      by_cases hfull : limit ≤ (chosen ++ [chunk]).length
      · simp only [if_pos hfull]
        exact hmoved.of_append_left
      · simp only [if_neg hfull]
        exact ih hmoved

theorem nodup_fillUp {limit : Nat} {chosen chunks : List KnowledgeChunk} (h : chosen.Nodup) :
    (fillUp limit chosen chunks).Nodup := by
  induction chunks generalizing chosen with
  | nil => exact h
  | cons chunk chunks ih =>
    rw [fillUp]
    by_cases hold : chunk ∈ chosen
    · rw [if_pos hold]
      exact ih h
    · rw [if_neg hold]
      have hmore : (chosen ++ [chunk]).Nodup :=
        List.nodup_append.mpr ⟨h, List.nodup_singleton chunk,
          fun a ha b hb hab => hold (List.mem_singleton.mp hb ▸ hab ▸ ha)⟩
      by_cases hfull : limit ≤ (chosen ++ [chunk]).length
      · simp only [if_pos hfull]
        exact hmore
      · simp only [if_neg hfull]
        exact ih hmore

theorem nodup_selectDiverse {limit : Nat} {chunks : List KnowledgeChunk} (h : chunks.Nodup) :
    (selectDiverse chunks limit).Nodup := by
  have hchosen : (chooseDiverse limit [] [] chunks).1.Nodup :=
    nodup_chooseDiverse (by rw [List.nil_append]; exact h)
  unfold selectDiverse
  match hfirst : chooseDiverse limit [] [] chunks with
  | (chosen, true) =>
    rw [hfirst] at hchosen
    exact hchosen
  | (chosen, false) =>
    rw [hfirst] at hchosen
    exact nodup_fillUp hchosen

/-- The first loop stops early with the limit reached. -/
theorem length_chooseDiverse {limit : Nat} {chosen : List KnowledgeChunk}
    {seen_sources : List RequiredText} {chunks : List KnowledgeChunk}
    (h : (chooseDiverse limit chosen seen_sources chunks).2 = true) :
    limit ≤ (chooseDiverse limit chosen seen_sources chunks).1.length := by
  induction chunks generalizing chosen seen_sources with
  | nil => cases h
  | cons chunk chunks ih =>
    rw [chooseDiverse] at h ⊢
    by_cases hwait : chunk.source_id ∈ seen_sources ∧ chosen.length < limit
    · rw [if_pos hwait] at h ⊢
      exact ih h
    · rw [if_neg hwait] at h ⊢
      by_cases hfull : limit ≤ (chosen ++ [chunk]).length
      · simp only [if_pos hfull]
        exact hfull
      · simp only [if_neg hfull] at h ⊢
        exact ih h

/-- The second loop reaches the limit or leaves no chunk out. -/
theorem fillUp_full (limit : Nat) (chosen chunks : List KnowledgeChunk) :
    limit ≤ (fillUp limit chosen chunks).length ∨
      ∀ chunk, chunk ∈ chosen ∨ chunk ∈ chunks → chunk ∈ fillUp limit chosen chunks := by
  induction chunks generalizing chosen with
  | nil => exact Or.inr fun chunk h => h.resolve_right List.not_mem_nil
  | cons first chunks ih =>
    rw [fillUp]
    by_cases hold : first ∈ chosen
    · rw [if_pos hold]
      refine (ih chosen).imp_right fun hall chunk h => hall chunk ?_
      rcases h with hmem | hmem
      · exact Or.inl hmem
      · rcases List.mem_cons.mp hmem with rfl | hlater
        · exact Or.inl hold
        · exact Or.inr hlater
    · rw [if_neg hold]
      by_cases hfull : limit ≤ (chosen ++ [first]).length
      · simp only [if_pos hfull]
        exact Or.inl hfull
      · simp only [if_neg hfull]
        refine (ih (chosen ++ [first])).imp_right fun hall chunk h => hall chunk ?_
        rcases h with hmem | hmem
        · exact Or.inl (List.mem_append_left _ hmem)
        · rcases List.mem_cons.mp hmem with rfl | hlater
          · exact Or.inl (List.mem_append_right _ List.mem_cons_self)
          · exact Or.inr hlater

theorem selectDiverse_full (limit : Nat) (chunks : List KnowledgeChunk) :
    limit ≤ (selectDiverse chunks limit).length ∨
      ∀ chunk ∈ chunks, chunk ∈ selectDiverse chunks limit := by
  unfold selectDiverse
  match hfirst : chooseDiverse limit [] [] chunks with
  | (chosen, true) =>
    have hstop : (chooseDiverse limit [] [] chunks).2 = true := by rw [hfirst]
    have hlimit := length_chooseDiverse hstop
    rw [hfirst] at hlimit
    exact Or.inl hlimit
  | (chosen, false) =>
    exact (fillUp_full limit chosen chunks).imp_right fun hall chunk h => hall chunk (Or.inr h)

/-- Selection picks as many of some candidates as the limit allows. -/
theorem length_selectDiverse {limit : Nat} {some_chunks chunks : List KnowledgeChunk}
    (hnodup : some_chunks.Nodup) (hsub : ∀ chunk ∈ some_chunks, chunk ∈ chunks)
    (hlimit : some_chunks.length ≤ limit) :
    some_chunks.length ≤ (selectDiverse chunks limit).length := by
  rcases selectDiverse_full limit chunks with hfull | hall
  · omega
  · exact (hnodup.subperm fun chunk hmem => hall chunk (hsub chunk hmem)).length_le

namespace HybridRetriever

/-! ## Section 2: The budget -/

/-- The bytes of some chunks. -/
def bytesOf (chunks : List KnowledgeChunk) : Nat := (chunks.map textSize).sum

/-- The tokens of some chunks. -/
def tokensOf (chunks : List KnowledgeChunk) : Nat := (chunks.map textTokens).sum

/-- The chunks of an answer are no more than the query and the settings allow. -/
structure WithinLimits (config : KnowledgeConfig) (query : RetrievalQuery)
    (chunks : List KnowledgeChunk) : Prop where
  count : chunks.length ≤ min query.top_k config.max_context_chunks
  bytes : bytesOf chunks ≤ config.max_context_bytes
  tokens : tokensOf chunks ≤ config.max_context_tokens

/-- The most hits that the settings let through: a chunk has a byte and counts
    as a token at least. -/
def mostHits (config : KnowledgeConfig) : Nat :=
  min (min config.top_k config.max_context_chunks)
    (min config.max_context_bytes config.max_context_tokens)

theorem textSize_pos (chunk : KnowledgeChunk) : 0 < textSize chunk := by
  unfold textSize
  rw [Nat.pos_iff_ne_zero]
  exact fun hzero => chunk.text_ne (String.utf8ByteSize_eq_zero_iff.mp hzero)

theorem textTokens_pos (chunk : KnowledgeChunk) : 0 < textTokens chunk :=
  Nat.lt_of_lt_of_le Nat.zero_lt_one (Nat.le_max_left _ _)

theorem length_le_bytesOf (chunks : List KnowledgeChunk) : chunks.length ≤ bytesOf chunks := by
  induction chunks with
  | nil => exact Nat.zero_le _
  | cons chunk chunks ih =>
    have hpos := textSize_pos chunk
    unfold bytesOf at ih ⊢
    rw [List.length_cons, List.map_cons, List.sum_cons]
    omega

theorem length_le_tokensOf (chunks : List KnowledgeChunk) : chunks.length ≤ tokensOf chunks := by
  induction chunks with
  | nil => exact Nat.zero_le _
  | cons chunk chunks ih =>
    have hpos := textTokens_pos chunk
    unfold tokensOf at ih ⊢
    rw [List.length_cons, List.map_cons, List.sum_cons]
    omega

/-- What has been used is within the budget. -/
def Used.Within (config : KnowledgeConfig) (used : Used) : Prop :=
  used.hits ≤ config.max_context_chunks ∧ used.bytes ≤ config.max_context_bytes ∧
    used.tokens ≤ config.max_context_tokens

theorem Used.fits_iff {config : KnowledgeConfig} {used : Used} {chunk : KnowledgeChunk} :
    used.fits config chunk = true ↔ (used.add chunk).Within config := by
  unfold Used.fits Used.Within Used.add
  simp only [Bool.and_eq_true, decide_eq_true_eq, and_assoc]
  exact Iff.rfl

/-- Step by step, what fits stays within the budget. -/
theorem fitting_within {config : KnowledgeConfig} {used : Used} (h : used.Within config)
    (chunks : List KnowledgeChunk) :
    used.hits + (fitting config used chunks).length ≤ config.max_context_chunks ∧
      used.bytes + bytesOf (fitting config used chunks) ≤ config.max_context_bytes ∧
        used.tokens + tokensOf (fitting config used chunks) ≤ config.max_context_tokens := by
  induction chunks generalizing used with
  | nil => exact h
  | cons chunk chunks ih =>
    rw [fitting]
    by_cases hfits : used.fits config chunk = true
    · obtain ⟨hcount, hbytes, htokens⟩ := ih (Used.fits_iff.mp hfits)
      rw [if_pos hfits]
      unfold Used.add bytesOf tokensOf at *
      simp only [List.length_cons, List.map_cons, List.sum_cons] at *
      omega
    · rw [if_neg hfits]
      exact h

theorem fitting_front (config : KnowledgeConfig) (used : Used) (chunks : List KnowledgeChunk) :
    fitting config used chunks <+: chunks := by
  obtain ⟨rest, hcut, -⟩ := fitting_cut config used chunks
  exact ⟨rest, hcut.symm⟩

/-- A cut ranking is within the limits of any query that asks for the most. -/
theorem withinLimits_fitting {config : KnowledgeConfig} {query : RetrievalQuery}
    (h : mostHits config ≤ query.top_k) {ranked : List KnowledgeChunk}
    (hranked : ranked.length ≤ config.top_k) :
    WithinLimits config query (fitting config ⟨0, 0, 0⟩ ranked) := by
  have hstart : Used.Within config ⟨0, 0, 0⟩ := ⟨Nat.zero_le _, Nat.zero_le _, Nat.zero_le _⟩
  obtain ⟨hcount, hbytes, htokens⟩ := fitting_within hstart ranked
  have hlength := (fitting_front config ⟨0, 0, 0⟩ ranked).length_le
  have hsome := length_le_bytesOf (fitting config ⟨0, 0, 0⟩ ranked)
  have hsome' := length_le_tokensOf (fitting config ⟨0, 0, 0⟩ ranked)
  simp only [Nat.zero_add] at hcount hbytes htokens
  unfold mostHits at h
  exact ⟨by omega, hbytes, htokens⟩

/-- Chunks of one byte fit as long as no limit is reached. -/
theorem length_fitting {config : KnowledgeConfig} (n k : Nat) {chunks : List KnowledgeChunk}
    (hone : ∀ chunk ∈ chunks, textSize chunk = 1) (hlength : k ≤ chunks.length)
    (hchunks : n + k ≤ config.max_context_chunks) (hbytes : n + k ≤ config.max_context_bytes)
    (htokens : n + k ≤ config.max_context_tokens) :
    k ≤ (fitting config ⟨n, n, n⟩ chunks).length := by
  induction k generalizing n chunks with
  | zero => exact Nat.zero_le _
  | succ k ih =>
    cases chunks with
    | nil =>
      rw [List.length_nil] at hlength
      omega
    | cons chunk chunks =>
      have hsize : textSize chunk = 1 := hone chunk List.mem_cons_self
      have htoken : textTokens chunk = 1 := by
        unfold textTokens
        rw [hsize]
        rfl
      have hfits : Used.fits config ⟨n, n, n⟩ chunk = true := by
        rw [Used.fits_iff]
        unfold Used.Within Used.add
        rw [hsize, htoken]
        refine ⟨?_, ?_, ?_⟩ <;> simp only [] <;> omega
      have hadd : Used.add ⟨n, n, n⟩ chunk = ⟨n + 1, n + 1, n + 1⟩ := by
        unfold Used.add
        rw [hsize, htoken]
      rw [List.length_cons] at hlength
      rw [fitting, if_pos hfits, hadd, List.length_cons]
      have hmore := ih (n + 1) (fun c hc => hone c (List.mem_cons_of_mem chunk hc)) (by omega)
        (by omega) (by omega) (by omega)
      omega

/-! ## Section 3: The two paths -/

section paths
variable {F : Type} [Score F] {r : HybridRetriever} {reader : KnowledgeReader F}
  {casefold : String → String} {query : RetrievalQuery} {find : String → Option KnowledgeChunk}

/-- Hits are the first `top_k` of the chunks in some order. -/
theorem chunks_hitsFromChunks (r : HybridRetriever) (chunks : List KnowledgeChunk)
    (scores : List (String × F)) :
    ∃ ordered, List.Perm ordered chunks ∧
      (hitsFromChunks r chunks scores).map RetrievalHit.chunk = ordered.take r.config.top_k := by
  let hits := chunks.map fun chunk => hitOf chunk ((scores.lookup chunk.chunk_id).getD 0) 1
  refine ⟨(hits.sortBy hitKey).map RetrievalHit.chunk, ?_, ?_⟩
  · have hchunks : hits.map RetrievalHit.chunk = chunks := by
      rw [List.map_map]
      exact List.map_id chunks
    have hperm := (List.sortBy_perm hitKey hits).map RetrievalHit.chunk
    rw [hchunks] at hperm
    exact hperm
  · unfold hitsFromChunks
    rw [List.map_take, map_chunk_rerank]

theorem length_hitsFromChunks (r : HybridRetriever) (chunks : List KnowledgeChunk)
    (scores : List (String × F)) :
    (hitsFromChunks r chunks scores).length = min r.config.top_k chunks.length := by
  obtain ⟨ordered, hperm, hhits⟩ := chunks_hitsFromChunks r chunks scores
  rw [← hperm.length_eq, ← List.length_take, ← hhits, List.length_map]

theorem nodup_hitsFromChunks (r : HybridRetriever) {chunks : List KnowledgeChunk}
    (scores : List (String × F)) (h : chunks.Nodup) :
    ((hitsFromChunks r chunks scores).map RetrievalHit.chunk).Nodup := by
  obtain ⟨ordered, hperm, hhits⟩ := chunks_hitsFromChunks r chunks scores
  rw [hhits]
  exact (hperm.nodup_iff.mpr h).sublist (List.take_sublist _ _)

omit [Score F] in
/-- Ids that are distinct load distinct chunks. -/
theorem nodup_authorizedChunks (hload : LoadsById reader find) {chunk_ids : List String}
    (hids : chunk_ids.Nodup) {chunks : List KnowledgeChunk}
    (h : authorizedChunks reader query chunk_ids = .ok chunks) :
    (chunks.map KnowledgeChunk.chunk_id).Nodup := by
  obtain ⟨loaded, hloaded, rfl⟩ := authorizedChunks_ok h
  rw [hload.load_chunks] at hloaded
  obtain rfl := Except.ok.inj hloaded
  rw [map_chunk_id_filter hload.keyed]
  exact hids.filter _

/-- The candidates are loaded under the ids of a fusion. -/
theorem candidates_authorized {c : Candidates F} (h : candidates r reader query = .ok c) :
    ∃ chunk_ids, chunk_ids.Nodup ∧ authorizedChunks reader query chunk_ids = .ok c.chunks := by
  unfold candidates at h
  rw [bind_ok] at h
  obtain ⟨⟨vector_hits, keyword_hits⟩, -, h⟩ := h
  rw [bind_ok] at h
  obtain ⟨chunks, hchunks, h⟩ := h
  by_cases hexpand : r.expand_graph = true
  · simp only [if_pos hexpand] at h
    rw [bind_ok] at h
    obtain ⟨expanded, -, h⟩ := h
    rw [bind_ok] at h
    obtain ⟨all, hall, h⟩ := h
    obtain rfl := pure_ok.mp h
    exact ⟨_, nodup_reciprocalRankFusion _, hall⟩
  · simp only [if_neg hexpand] at h
    obtain rfl := pure_ok.mp h
    exact ⟨_, nodup_reciprocalRankFusion _, hchunks⟩

/-- The fresh path ranks no chunk twice, nor two under one id. -/
theorem nodup_rankedChunks (hload : LoadsById reader find) {ranked : List KnowledgeChunk}
    (h : rankedChunks r reader query = .ok ranked) :
    (ranked.map KnowledgeChunk.chunk_id).Nodup := by
  have hloaded := (rankedChunks_ok h).2
  unfold rankedChunks at h
  rw [bind_ok] at h
  obtain ⟨c, hc, h⟩ := h
  obtain rfl := pure_ok.mp h
  obtain ⟨chunk_ids, hids, hchunks⟩ := candidates_authorized hc
  have hnodup : c.chunks.Nodup := (nodup_authorizedChunks hload hids hchunks).of_map
  have hranked : ((selected r query c).map RetrievalHit.chunk).Nodup :=
    nodup_hitsFromChunks r _ (nodup_selectDiverse (hnodup.filter _))
  apply List.Nodup.map_on _ hranked
  intro a ha b hb hid
  have hfind := find_of_loaded hload (hloaded a ha)
  rw [hid, find_of_loaded hload (hloaded b hb)] at hfind
  exact (Option.some.inj hfind).symm

/-- Either path cuts a ranking of at most `top_k` chunks at the budget.  It is the
    fresh one, or it is made of the chunks under the ids of an entry. -/
theorem retrieve_cut {cache cache' : InMemoryKVCache} {asked filled : Decimal}
    {context : RetrievedContext F}
    (h : retrieve r reader casefold query cache asked filled = .ok (context, cache')) :
    ∃ ranked, chunksOf context = fitting r.config ⟨0, 0, 0⟩ ranked ∧
      ranked.length ≤ r.config.top_k ∧
      (rankedChunks r reader query = .ok ranked ∨
        ∃ key chunk_ids chunks, (cache.get key asked).2 = some chunk_ids ∧
          authorizedChunks reader query chunk_ids = .ok chunks ∧
            (chunks.Nodup → ranked.Nodup)) := by
  unfold retrieve at h
  rw [bind_ok] at h
  obtain ⟨collection_revision, -, h⟩ := h
  simp only at h
  rw [bind_ok] at h
  obtain ⟨⟨context', stored⟩, hanswer, h⟩ := h
  have hsame : context' = context := by
    cases stored with
    | none => exact (Prod.mk.inj (pure_ok.mp h)).1
    | some chunk_ids => exact (Prod.mk.inj (pure_ok.mp h)).1
  subst hsame
  match hcached : (cache.get (cacheKey r casefold query collection_revision) asked).2 with
  | some chunk_ids =>
    rw [hcached] at hanswer
    unfold retrieveWith answerCached at hanswer
    rw [bind_ok] at hanswer
    obtain ⟨context, hcontext, hpair⟩ := hanswer
    obtain ⟨rfl, -⟩ := Prod.mk.inj (pure_ok.mp hpair)
    rw [bind_ok] at hcontext
    obtain ⟨chunks, hchunks, hcontext⟩ := hcontext
    obtain rfl := pure_ok.mp hcontext
    let scores : List (String × F) := chunks.map fun chunk => (chunk.chunk_id, 1)
    refine ⟨(hitsFromChunks r chunks scores).map RetrievalHit.chunk, ?_, ?_,
      Or.inr ⟨_, chunk_ids, chunks, hcached, hchunks, nodup_hitsFromChunks r scores⟩⟩
    · exact map_chunk_takeBudget r.config ⟨0, 0, 0⟩ (hitsFromChunks r chunks scores)
    · rw [List.length_map, length_hitsFromChunks]
      exact Nat.min_le_left _ _
  | none =>
    rw [hcached] at hanswer
    unfold retrieveWith at hanswer
    rw [bind_ok] at hanswer
    obtain ⟨⟨fresh, ids⟩, hfresh, hpair⟩ := hanswer
    obtain ⟨rfl, -⟩ := Prod.mk.inj (pure_ok.mp hpair)
    obtain ⟨ranked, hranked, hcut, -⟩ := answerFresh_ok hfresh
    exact ⟨ranked, hcut, (rankedChunks_ok hranked).1, Or.inl hranked⟩

/-- From a cache that the calls of `retrieve` filled, no path returns a chunk
    twice. -/
theorem nodup_retrieve (hstore : OfStore casefold reader) {calls : List (Call F)}
    {cache cache' : InMemoryKVCache} (hcalls : SharedCache casefold calls cache)
    (hstores : ∀ a ∈ calls, OfStore casefold a.reader) {asked filled : Decimal}
    {context : RetrievedContext F}
    (h : retrieve r reader casefold query cache asked filled = .ok (context, cache')) :
    (chunksOf context).Nodup := by
  obtain ⟨find, hload⟩ := hstore.loadsById
  obtain ⟨ranked, hcut, -, hpath⟩ := retrieve_cut h
  have hranked : ranked.Nodup := by
    rcases hpath with hfresh | ⟨key, chunk_ids, chunks, hfound, hchunks, hkeep⟩
    · exact (nodup_rankedChunks hload hfresh).of_map
    · -- The ids of an entry are those of the fresh ranking of some call.
      obtain ⟨expires_at, hentry⟩ := entry_of_get hfound
      obtain ⟨a, ha, _, _, -, -, hanswer⟩ := filled_of_shared hcalls _ _ _ hentry
      obtain ⟨find', hload'⟩ := (hstores a ha).loadsById
      obtain ⟨ranked', hranked', -, rfl⟩ := answerFresh_ok hanswer
      have hids := nodup_rankedChunks hload' hranked'
      exact hkeep (nodup_authorizedChunks hload hids hchunks).of_map
  rw [hcut]
  exact hranked.sublist (fitting_front _ _ _).sublist

omit [Score F] in
variable (query) in
theorem authorizedChunks_eq (hload : LoadsById reader find) (chunk_ids : List String) :
    ∃ chunks, authorizedChunks reader query chunk_ids = .ok chunks := by
  unfold authorizedChunks
  rw [hload.load_chunks]
  exact ⟨_, rfl⟩

/-- Whatever the expansion returns is a candidate of the fresh path. -/
theorem candidates_of_expanded (hload : LoadsById reader find) (hexpand : r.expand_graph = true)
    {vector_hits keyword_hits : List (String × F)} {chunks expanded : List KnowledgeChunk}
    (hsearches : searches r reader query = .ok (vector_hits, keyword_hits))
    (hchunks : authorizedChunks reader query
      ((reciprocalRankFusion (F := F) [vector_hits.map Prod.fst, keyword_hits.map Prod.fst]).map
        Prod.fst) = .ok chunks)
    (hexpanded : graphExpand r reader query chunks = .ok expanded) :
    ∃ c, candidates r reader query = .ok c ∧ ∀ chunk ∈ expanded, chunk ∈ c.chunks := by
  let fused_ids := (reciprocalRankFusion (F := F)
    [vector_hits.map Prod.fst, keyword_hits.map Prod.fst]).map Prod.fst
  let extra_ids := (expanded.filter fun chunk => chunk ∉ chunks).map KnowledgeChunk.chunk_id
  let fused : List (String × F) := reciprocalRankFusion [fused_ids, extra_ids]
  obtain ⟨all, hall⟩ := authorizedChunks_eq query hload (fused.map Prod.fst)
  refine ⟨⟨all, fused, vector_hits.length, keyword_hits.length, expanded.length⟩, ?_, ?_⟩
  · unfold candidates
    rw [hsearches]
    show (authorizedChunks reader query fused_ids >>= _) = _
    rw [hchunks]
    show (if r.expand_graph = true then _ else _) = _
    rw [if_pos hexpand, hexpanded]
    show (authorizedChunks reader query (fused.map Prod.fst) >>= _) = _
    rw [hall]
    rfl
  · intro chunk hchunk
    unfold graphExpand at hexpanded
    rw [bind_ok] at hexpanded
    obtain ⟨seeds, -, hexpanded⟩ := hexpanded
    rw [bind_ok] at hexpanded
    obtain ⟨paths, -, hexpanded⟩ := hexpanded
    obtain ⟨-, hfind, hread⟩ := (mem_authorizedChunks hload hexpanded).mp hchunk
    refine (mem_authorizedChunks hload hall).mpr ⟨mem_reciprocalRankFusion ?_, hfind, hread⟩
    by_cases hold : chunk ∈ chunks
    · exact Or.inl ((mem_authorizedChunks hload hchunks).mp hold).1
    · refine Or.inr (List.mem_map_of_mem (List.mem_filter.mpr ⟨hchunk, ?_⟩))
      exact decide_eq_true hold

/-- Chunks that are candidates and may be read are ranked as far as the limits
    allow. -/
theorem length_selected {c : Candidates F} {chunks : List KnowledgeChunk} (hnodup : chunks.Nodup)
    (hmem : ∀ chunk ∈ chunks, chunk ∈ c.chunks)
    (hread : ∀ chunk ∈ chunks, authorized chunk query.principal_id = true)
    (htop : chunks.length ≤ r.config.top_k)
    (hcontext : chunks.length ≤ r.config.max_context_chunks) :
    chunks.length ≤ (selected r query c).length := by
  unfold selected
  rw [length_hitsFromChunks]
  apply Nat.le_min_of_le_of_le htop
  apply length_selectDiverse hnodup _ hcontext
  intro chunk hchunk
  exact List.mem_filter.mpr ⟨hmem chunk hchunk, hread chunk hchunk⟩

end paths

/-! ## Section 4: A crowd of small chunks

    One source of as many chunks as `n` says, each of one byte, and one node
    that is supported by all of them. -/

theorem isRequiredText_replicate (n : Nat) :
    isRequiredText (String.ofList (List.replicate (n + 1) 'a')) = true := by
  have hletter : isSpace 'a' = false := by decide
  have hstrip : stripChars (List.replicate (n + 1) 'a') = List.replicate (n + 1) 'a' := by
    have hdrop : (List.replicate (n + 1) 'a').dropWhile isSpace = List.replicate (n + 1) 'a' := by
      rw [List.replicate_succ, List.dropWhile_cons, hletter]
      rfl
    unfold stripChars
    rw [hdrop, List.reverse_replicate, hdrop, List.reverse_replicate]
  unfold isRequiredText nonBlank
  rw [String.toList_ofList, hstrip]
  simp [hletter]

/-- The id of a chunk of the crowd. -/
def crowdId (n : Nat) : RequiredText :=
  ⟨String.ofList (List.replicate (n + 1) 'a'), isRequiredText_replicate n⟩

theorem crowdId_inj {n k : Nat} (h : (crowdId n).val = (crowdId k).val) : n = k := by
  have hlists := String.ofList_injective h
  have hlengths := congrArg List.length hlists
  simp only [List.length_replicate] at hlengths
  omega

section crowd
variable (config : KnowledgeConfig) (query : RetrievalQuery) (n : Nat)

def crowdDocument : SourceDocument where
  tenant_id := query.tenant_id
  collection_id := query.collection_id
  source_id := crowdId 0
  media_type := .plain
  text := "a"
  acl_principals := {query.principal_id}
  created_at := query.created_at
  provenance := crowdId 0
  text_ne := by decide
  text_null := by decide

def crowdChunk (k : Nat) : KnowledgeChunk where
  chunk_id := (crowdId k).val
  tenant_id := query.tenant_id
  collection_id := query.collection_id
  source_id := crowdId 0
  source_revision := 1
  chunk_index := k
  text := "a"
  content_digest := textDigest "a"
  provenance := crowdId 0
  acl_principals := {query.principal_id}
  created_at := query.created_at
  schema_version := knowledgeSchemaVersion
  source_revision_pos := Nat.zero_lt_one
  text_ne := by decide

/-- The chunks. -/
def crowd : List KnowledgeChunk := (List.range n).map (crowdChunk query)

theorem nodup_crowd : (crowd query n).Nodup := by
  apply List.Nodup.map_on _ List.nodup_range
  intro k _ j _ h
  exact crowdId_inj (congrArg KnowledgeChunk.chunk_id h)

def crowdNode : GraphNode where
  node_id := crowdId 0
  tenant_id := query.tenant_id
  canonical_type := crowdId 0
  canonical_name := crowdId 0
  provenance_chunk_ids := (List.range (n + 1)).map crowdId
  confidence := query.created_at
  valid_from := query.created_at
  valid_to := none
  source_revision := 1
  source_id := crowdId 0
  schema_version := knowledgeSchemaVersion
  provenance_ne := by simp

/-- All chunks have one embedding. -/
def crowdVector : List Decimal := List.replicate config.embedding_profile.dimension query.created_at

def crowdPublication : Publication where
  document := crowdDocument query
  revision := (crowdDocument query).revision 1 Nat.zero_lt_one query.created_at
  chunks := crowd query (n + 1)
  embeddings :=
    { rows := (crowd query (n + 1)).map fun chunk => (chunk.chunk_id, crowdVector config query)
      unique := by
        unfold crowd
        rw [List.map_map, List.map_map]
        apply List.Nodup.map_on _ List.nodup_range
        intro k _ j _ h
        exact crowdId_inj h }
  nodes := [crowdNode query n]
  edges := []
  profile := config.embedding_profile
  describes := ⟨rfl, rfl, rfl, rfl, rfl, rfl, rfl⟩
  parts := by
    intro chunk hchunk
    obtain ⟨k, -, rfl⟩ := List.mem_map.mp hchunk
    exact ⟨rfl, rfl, rfl, rfl, rfl, rfl⟩
  chunks_ne := by simp [crowd]
  embedded := by
    intro chunk_id h
    obtain ⟨vector, hvector⟩ := Option.isSome_iff_exists.mp h
    have hrow := List.mem_map_of_mem (f := Prod.fst) (Table.mem_rows.mpr hvector)
    rw [List.map_map] at hrow
    exact hrow

/-- The store after the crowd is published. -/
def crowdStore : InMemoryKnowledgeStore :=
  InMemoryKnowledgeStore.empty.written (crowdPublication config query n)

/-- One publication into the empty store makes it. -/
theorem crowdStore_published :
    InMemoryKnowledgeStore.empty.publishRevision (crowdPublication config query n) =
      .ok (crowdStore config query n, 1) := by
  have hlength : ∀ vector ∈ (crowdPublication config query n).embeddings.values,
      vector.length = (crowdPublication config query n).profile.dimension := by
    intro vector hvector
    obtain ⟨row, hrow, rfl⟩ := List.mem_map.mp hvector
    obtain ⟨chunk, -, rfl⟩ := List.mem_map.mp hrow
    exact List.length_replicate
  unfold InMemoryKnowledgeStore.publishRevision
  rw [require_bind_pos (fun _ h => nomatch h), require_bind_pos hlength]
  rfl

variable {config query n}

theorem get?_crowd {chunk_id : String} {chunk : KnowledgeChunk} :
    (crowdStore config query n).chunks.get? chunk_id = some chunk ↔
      chunk ∈ crowd query (n + 1) ∧ chunk.chunk_id = chunk_id := by
  constructor
  · intro hget
    rcases Registry.get?_putAll_cases hget with hnew | ⟨-, hold⟩
    · exact hnew
    · cases hold
  · rintro ⟨hmem, hid⟩
    obtain ⟨other, hother, hsame, hget⟩ := Registry.get?_putAll_of_mem
      (InMemoryKnowledgeStore.empty.chunks.removeAll []) hmem
    obtain ⟨k, -, rfl⟩ := List.mem_map.mp hmem
    obtain ⟨j, -, rfl⟩ := List.mem_map.mp hother
    obtain rfl := crowdId_inj hsame
    rw [← hid]
    exact hget

/-- The store finds the crowd and nothing else. -/
theorem findChunk_crowd {chunk_id : String} {chunk : KnowledgeChunk} :
    (crowdStore config query n).findChunk chunk_id = some chunk ↔
      chunk ∈ crowd query (n + 1) ∧ chunk.chunk_id = chunk_id := by
  unfold InMemoryKnowledgeStore.findChunk
  rw [Option.filter_eq_some_iff, get?_crowd]
  refine and_iff_left_of_imp ?_
  rintro ⟨hmem, -⟩
  obtain ⟨k, -, rfl⟩ := List.mem_map.mp hmem
  have hrevision : (crowdStore config query n).revisions.get? (crowdChunk query k).key =
      some (crowdPublication config query n).revision := Table.get?_set_self _ _ _
  unfold InMemoryKnowledgeStore.isTombstoned
  rw [hrevision]
  rfl

theorem readable_crowd {m : Nat} {chunk : KnowledgeChunk} (h : chunk ∈ crowd query m) :
    readable query chunk = true := by
  obtain ⟨k, -, rfl⟩ := List.mem_map.mp h
  simp [readable, authorized, crowdChunk]

theorem textSize_crowd {m : Nat} {chunk : KnowledgeChunk} (h : chunk ∈ crowd query m) :
    textSize chunk = 1 := by
  obtain ⟨k, -, rfl⟩ := List.mem_map.mp h
  rfl

theorem id_crowd {chunk : KnowledgeChunk} (h : chunk ∈ crowd query (n + 1)) :
    ∃ chunk_id ∈ (crowdNode query n).provenance_chunk_ids, chunk_id.val = chunk.chunk_id := by
  obtain ⟨k, hk, rfl⟩ := List.mem_map.mp h
  exact ⟨crowdId k, List.mem_map_of_mem hk, rfl⟩

variable {F : Type} [Score F]

omit [Score F] in
/-- Vectors of one length are all scored. -/
theorem scoreVectors_ok (similarity : List Decimal → List Decimal → F) {vector : List Decimal}
    {embedded : List (String × List Decimal)}
    (h : ∀ row ∈ embedded, row.2.length = vector.length) :
    ∃ scored, InMemoryKnowledgeStore.scoreVectors similarity vector embedded = .ok scored ∧
      scored.map Prod.fst = embedded.map Prod.fst := by
  induction embedded with
  | nil => exact ⟨[], rfl, rfl⟩
  | cons row embedded ih =>
    obtain ⟨chunk_id, embedding⟩ := row
    obtain ⟨scored, hscored, hids⟩ := ih fun r hr => h r (List.mem_cons_of_mem _ hr)
    have hlength : embedding.length = vector.length := h _ List.mem_cons_self
    have hcosine : InMemoryKnowledgeStore.cosine similarity vector embedding =
        .ok (similarity vector embedding) := by
      unfold InMemoryKnowledgeStore.cosine
      rw [if_neg (by omega), if_neg (by omega)]
    refine ⟨(chunk_id, similarity vector embedding) :: scored, ?_, ?_⟩
    · rw [InMemoryKnowledgeStore.scoreVectors, hcosine]
      show (InMemoryKnowledgeStore.scoreVectors similarity vector embedded >>= _) = _
      rw [hscored]
      rfl
    · rw [List.map_cons, List.map_cons, hids]

variable (config query n) in
/-- The vector search finds some of the crowd. -/
theorem searchVector_crowd (similarity : List Decimal → List Decimal → F) {limit : Nat}
    (hlimit : 0 < limit) :
    ∃ hits, (crowdStore config query n).searchVector similarity query.collection
        query.principal_id (crowdVector config query) limit = .ok hits ∧
      ∃ chunk ∈ crowd query (n + 1), chunk.chunk_id ∈ hits.map Prod.fst := by
  let store := crowdStore config query n
  let live := store.listLiveChunks query.collection query.principal_id
  let embedded := live.filterMap fun chunk =>
    (store.embeddings.get? chunk.chunk_id).map fun embedding => (chunk.chunk_id, embedding)
  have hembedding : ∀ chunk ∈ crowd query (n + 1),
      store.embeddings.get? chunk.chunk_id = some (crowdVector config query) := by
    intro chunk hchunk
    have hnew : (chunk.chunk_id, crowdVector config query) ∈
        (crowdPublication config query n).embeddings.rows :=
      List.mem_map.mpr ⟨chunk, hchunk, rfl⟩
    obtain ⟨row, hrow, -, hget⟩ := Table.get?_setAll_of_mem Prod.snd
      (InMemoryKnowledgeStore.empty.embeddings.eraseAll []) ⟨_, hnew, rfl⟩
    obtain ⟨other, -, rfl⟩ := List.mem_map.mp hrow
    exact hget
  have hlive : ∀ chunk, chunk ∈ live ↔ chunk ∈ crowd query (n + 1) := by
    intro chunk
    show chunk ∈ store.listLiveChunks query.collection query.principal_id ↔ _
    unfold InMemoryKnowledgeStore.listLiveChunks
    rw [List.mem_sortBy, List.mem_filter, Registry.mem_values, get?_crowd]
    constructor
    · intro h
      exact h.1.1
    · intro h
      have hfind : store.findChunk chunk.chunk_id = some chunk := findChunk_crowd.mpr ⟨h, rfl⟩
      have hkept := (Option.filter_eq_some_iff.mp hfind).2
      have hread := readable_crowd h
      unfold readable at hread
      simp only [Bool.and_eq_true, decide_eq_true_eq] at hread ⊢
      exact ⟨⟨h, trivial⟩, ⟨collection_of_readable (readable_crowd h), hread.2⟩, hkept⟩
  have hlength : ∀ row ∈ embedded, row.2.length = (crowdVector config query).length := by
    intro row hrow
    obtain ⟨chunk, hchunk, hsome⟩ := List.mem_filterMap.mp hrow
    rw [hembedding chunk ((hlive chunk).mp hchunk)] at hsome
    rw [← Option.some.inj hsome]
  obtain ⟨scored, hscored, hids⟩ := scoreVectors_ok similarity hlength
  refine ⟨(scored.sortBy rankKey).take limit, ?_, ?_⟩
  · unfold InMemoryKnowledgeStore.searchVector
    show (InMemoryKnowledgeStore.scoreVectors similarity _ embedded >>= _) = _
    rw [hscored]
    rfl
  · have hfirst : crowdChunk query 0 ∈ crowd query (n + 1) :=
      List.mem_map.mpr ⟨0, List.mem_range.mpr (Nat.succ_pos n), rfl⟩
    have hsome : scored.sortBy rankKey ≠ [] := by
      intro hnil
      have hempty : embedded.map Prod.fst = [] := by
        rw [← hids, List.map_eq_nil_iff, ← List.length_eq_zero_iff,
          ← List.length_sortBy rankKey scored, hnil]
        rfl
      have hrow : ((crowdChunk query 0).chunk_id, crowdVector config query) ∈ embedded := by
        apply List.mem_filterMap.mpr ⟨_, (hlive _).mpr hfirst, _⟩
        rw [hembedding _ hfirst]
        rfl
      exact List.ne_nil_of_mem (List.mem_map_of_mem hrow) hempty
    obtain ⟨item, rest, hitems⟩ := List.exists_cons_of_ne_nil hsome
    have hitem : item ∈ scored := List.mem_sortBy.mp (hitems ▸ List.mem_cons_self)
    have hid := List.mem_map_of_mem (f := Prod.fst) hitem
    rw [hids] at hid
    obtain ⟨row, hrow, hsame⟩ := List.mem_map.mp hid
    obtain ⟨chunk, hchunk, hpair⟩ := List.mem_filterMap.mp hrow
    rw [hembedding chunk ((hlive chunk).mp hchunk)] at hpair
    refine ⟨chunk, (hlive chunk).mp hchunk, ?_⟩
    have hchunk_id : chunk.chunk_id = item.1 := by
      rw [← hsame, ← Option.some.inj hpair]
    rw [hitems, hchunk_id, List.take_cons hlimit]
    exact List.mem_cons_self

omit [Score F] in
theorem allowedChunk_crowd {chunk : KnowledgeChunk} (h : chunk ∈ crowd query (n + 1)) :
    (crowdStore config query n).allowedChunk query.tenant_id query.principal_id chunk.chunk_id =
      some chunk := by
  have hread := readable_crowd h
  unfold readable at hread
  simp only [Bool.and_eq_true, decide_eq_true_eq] at hread
  unfold InMemoryKnowledgeStore.allowedChunk
  rw [Option.filter_eq_some_iff]
  simp only [Bool.and_eq_true, decide_eq_true_eq]
  exact ⟨findChunk_crowd.mpr ⟨h, rfl⟩, hread.1.1, hread.2⟩

theorem first_mem_crowd : crowdChunk query 0 ∈ crowd query (n + 1) :=
  List.mem_map.mpr ⟨0, List.mem_range.mpr (Nat.succ_pos n), rfl⟩

theorem get?_crowdNode :
    (crowdStore config query n).nodes.get? (crowdId 0) = some (crowdNode query n) := by
  obtain ⟨node, hnode, -, hget⟩ := Registry.get?_putAll_of_mem InMemoryKnowledgeStore.empty.nodes
    (List.mem_singleton.mpr (rfl : crowdNode query n = crowdNode query n))
  obtain rfl := List.mem_singleton.mp hnode
  exact hget

theorem visible_crowdNode :
    (crowdStore config query n).visibleNode query.tenant_id query.principal_id (crowdId 0) =
      some (crowdNode query n) := by
  obtain ⟨chunk_id, hmem, hid⟩ := id_crowd (@first_mem_crowd query n)
  unfold InMemoryKnowledgeStore.visibleNode InMemoryKnowledgeStore.supported
  rw [get?_crowdNode, Option.filter_eq_some_iff]
  simp only [Bool.and_eq_true, decide_eq_true_eq, List.any_eq_true]
  refine ⟨trivial, rfl, chunk_id, hmem, ?_⟩
  rw [hid, allowedChunk_crowd first_mem_crowd]
  rfl

/-- From any chunk of the crowd the graph leads to all of it. -/
theorem graphExpand_crowd {r : HybridRetriever} (similarity : List Decimal → List Decimal → F)
    (casefold : String → String) {chunks : List KnowledgeChunk}
    (h : ∃ chunk ∈ crowd query (n + 1), chunk ∈ chunks) :
    ∃ expanded, graphExpand r ((crowdStore config query n).reader similarity casefold) query
        chunks = .ok expanded ∧
      ∀ chunk ∈ crowd query (n + 1), chunk ∈ expanded := by
  let store := crowdStore config query n
  let seeds := store.nodesForChunks (chunks.map KnowledgeChunk.chunk_id)
  let paths := store.traverse query.tenant_id query.principal_id (seeds.map GraphNode.node_id)
    r.config.graph_max_depth r.config.graph_max_nodes
  have hseed : crowdId 0 ∈ seeds.map GraphNode.node_id := by
    obtain ⟨chunk, hcrowd, hchunk⟩ := h
    obtain ⟨chunk_id, hmem, hid⟩ := id_crowd hcrowd
    have hnode : crowdNode query n ∈ seeds := by
      refine List.mem_filter.mpr ⟨Registry.mem_values.mpr get?_crowdNode, ?_⟩
      rw [List.any_eq_true]
      refine ⟨chunk_id, hmem, ?_⟩
      rw [hid, decide_eq_true_eq]
      exact List.mem_map_of_mem hchunk
    exact List.mem_map_of_mem hnode
  have hnode : (visibleGraph (store.visibleNode query.tenant_id query.principal_id)
      (store.supportedEdges query.tenant_id query.principal_id)).node (crowdId 0) =
        some (crowdNode query n) := visible_crowdNode
  have hcited : ∀ chunk ∈ crowd query (n + 1), chunk.chunk_id ∈ citedIds paths := by
    intro chunk hcrowd
    obtain ⟨chunk_id, hmem, hid⟩ := id_crowd hcrowd
    have hallowed : store.allowedChunk query.tenant_id query.principal_id chunk_id.val =
        some chunk := hid ▸ allowedChunk_crowd hcrowd
    have hcitation := citationsForNodes_of_find hmem hallowed
    obtain ⟨path, hpath, hcites⟩ := boundedWalk_seed hnode r.config.graph_max_nodes_pos
      (List.ne_nil_of_mem hcitation)
    have hwalked : path ∈ paths := by
      obtain ⟨seed, hmem, hpath⟩ := List.mem_flatMap.mp hpath
      rw [List.mem_singleton.mp hmem] at hpath
      exact List.mem_flatMap.mpr ⟨crowdId 0, hseed, hpath⟩
    apply List.mem_map.mpr ⟨chunk.citation, List.mem_flatMap.mpr ⟨path, hwalked, ?_⟩, rfl⟩
    rw [hcites]
    exact hcitation
  refine ⟨(store.loadChunks (citedIds paths)).filter (readable query), rfl, ?_⟩
  intro chunk hcrowd
  refine List.mem_filter.mpr ⟨List.mem_filterMap.mpr ?_, readable_crowd hcrowd⟩
  exact ⟨chunk.chunk_id, hcited chunk hcrowd, findChunk_crowd.mpr ⟨hcrowd, rfl⟩⟩

/-- A retriever that embeds every text alike and expands the graph. -/
def crowdRetriever (config : KnowledgeConfig) (query : RetrievalQuery) : HybridRetriever where
  config := config
  embed _ _ := .ok [crowdVector config query]
  expand_graph := true

variable (config query n) in
/-- The whole crowd is a candidate. -/
theorem candidates_crowd (similarity : List Decimal → List Decimal → F)
    (casefold : String → String) :
    ∃ c, candidates (crowdRetriever config query)
        ((crowdStore config query n).reader similarity casefold) query = .ok c ∧
      ∀ chunk ∈ crowd query (n + 1), chunk ∈ c.chunks := by
  let store := crowdStore config query n
  let reader := store.reader similarity casefold
  have hload : LoadsById reader store.findChunk :=
    ⟨fun _ => rfl, fun h => (findChunk_crowd.mp h).2⟩
  obtain ⟨hits, hvector, first, hfirst, hid⟩ := searchVector_crowd config query n similarity
    config.vector_candidate_count_pos
  let keyword_hits : List (String × F) := store.searchKeyword casefold query.collection
    query.principal_id query.text.val config.keyword_candidate_count
  have hsearches : searches (crowdRetriever config query) reader query =
      .ok (hits, keyword_hits) := by
    show (store.searchVector similarity query.collection query.principal_id
      (crowdVector config query) config.vector_candidate_count >>= _) = _
    rw [hvector]
    rfl
  obtain ⟨chunks, hchunks⟩ := authorizedChunks_eq query hload
    ((reciprocalRankFusion (F := F) [hits.map Prod.fst, keyword_hits.map Prod.fst]).map Prod.fst)
  have hsome : ∃ chunk ∈ crowd query (n + 1), chunk ∈ chunks := by
    refine ⟨first, hfirst, (mem_authorizedChunks hload hchunks).mpr ⟨?_, ?_, ?_⟩⟩
    · exact mem_reciprocalRankFusion (Or.inl hid)
    · exact findChunk_crowd.mpr ⟨hfirst, rfl⟩
    · exact readable_crowd hfirst
  obtain ⟨expanded, hexpanded, hall⟩ := graphExpand_crowd similarity casefold hsome
  obtain ⟨c, hc, hcandidates⟩ := candidates_of_expanded hload rfl hsearches hchunks hexpanded
  exact ⟨c, hc, fun chunk hchunk => hcandidates chunk (hall chunk hchunk)⟩

variable (query) in
/-- From an empty cache the whole crowd is returned, if the settings let as many
    hits through. -/
theorem retrieve_crowd (similarity : List Decimal → List Decimal → F)
    (casefold : String → String) (asked filled : Decimal) (hmost : n + 1 ≤ mostHits config) :
    ∃ context cache', retrieve (crowdRetriever config query)
        ((crowdStore config query n).reader similarity casefold) casefold query
        InMemoryKVCache.empty asked filled = .ok (context, cache') ∧
      n + 1 ≤ context.hits.length := by
  let store := crowdStore config query n
  obtain ⟨c, hc, hcrowd⟩ := candidates_crowd config query n similarity casefold
  have hlength : (crowd query (n + 1)).length = n + 1 := by
    unfold crowd
    rw [List.length_map, List.length_range]
  have hselected : n + 1 ≤ (selected (crowdRetriever config query) query c).length := by
    rw [← hlength] at hmost ⊢
    unfold mostHits at hmost
    apply length_selected (nodup_crowd query (n + 1)) hcrowd _
    · show _ ≤ config.top_k
      omega
    · show _ ≤ config.max_context_chunks
      omega
    · intro chunk hchunk
      have hread := readable_crowd hchunk
      unfold readable at hread
      exact (Bool.and_eq_true _ _ ▸ hread).2
  have hanswer : ∃ answer, answerFresh (crowdRetriever config query)
      (store.reader similarity casefold) casefold query = .ok answer := by
    unfold answerFresh
    rw [hc]
    exact ⟨_, rfl⟩
  obtain ⟨⟨context, chunk_ids⟩, hfresh⟩ := hanswer
  obtain ⟨ranked, hranked, hcut, -⟩ := answerFresh_ok hfresh
  have hsmall : ∀ chunk ∈ ranked, textSize chunk = 1 := by
    intro chunk hchunk
    have hload : LoadsById (store.reader similarity casefold) store.findChunk :=
      ⟨fun _ => rfl, fun h => (findChunk_crowd.mp h).2⟩
    have hfind := find_of_loaded hload ((rankedChunks_ok hranked).2 chunk hchunk)
    exact textSize_crowd (findChunk_crowd.mp hfind).1
  have hmany : n + 1 ≤ ranked.length := by
    unfold rankedChunks at hranked
    rw [hc] at hranked
    rw [← Except.ok.inj hranked, List.length_map]
    exact hselected
  have hcontext : n + 1 ≤ (chunksOf context).length := by
    unfold mostHits at hmost
    rw [hcut]
    apply length_fitting 0 (n + 1) hsmall hmany
    · show 0 + (n + 1) ≤ config.max_context_chunks
      omega
    · show 0 + (n + 1) ≤ config.max_context_bytes
      omega
    · show 0 + (n + 1) ≤ config.max_context_tokens
      omega
  have hmiss : InMemoryKVCache.empty.get
      (cacheKey (crowdRetriever config query) casefold query
        (store.collectionRevision query.collection)) asked = (InMemoryKVCache.empty, none) := rfl
  have hretrieve : retrieve (crowdRetriever config query) (store.reader similarity casefold)
      casefold query InMemoryKVCache.empty asked filled = _ := retrieve_miss rfl hmiss
  rw [hfresh] at hretrieve
  refine ⟨context, _, hretrieve, ?_⟩
  unfold chunksOf at hcontext
  rw [List.length_map] at hcontext
  exact hcontext

end crowd

/-! ## Section 5: The limit of the query -/

variable {F : Type} [Score F]

/-- Whatever the embeddings, the store, the cache and the graph: there are never
    more hits than the query and the settings allow, their texts stay within
    the budget, and from a cache that calls of `retrieve` filled no chunk comes
    twice, exactly when the other limits leave no more hits than the query asks
    for. -/
theorem limits_iff (casefold : String → String) (config : KnowledgeConfig)
    (query : RetrievalQuery) :
    (∀ (embed : List String → EmbeddingProfile → Raises (List (List Decimal)))
        (expand_graph : Bool) (reader : KnowledgeReader F), OfStore casefold reader →
      ∀ (cache cache' : InMemoryKVCache) (asked filled : Decimal) (context : RetrievedContext F),
        retrieve ⟨config, embed, expand_graph⟩ reader casefold query cache asked filled =
            .ok (context, cache') →
          WithinLimits config query (chunksOf context) ∧
            ∀ calls : List (Call F), SharedCache casefold calls cache →
              (∀ a ∈ calls, OfStore casefold a.reader) → (chunksOf context).Nodup) ↔
      mostHits config ≤ query.top_k := by
  constructor
  · intro hall
    by_contra hmore
    obtain ⟨context, cache', hretrieve, hlength⟩ := retrieve_crowd query
      (fun _ _ => (0 : F)) casefold 0 0 (Nat.lt_of_not_le hmore)
    have hlimits := (hall _ true _ (.memory _ fun _ _ => 0) _ _ _ _ _ hretrieve).1
    have hcount := hlimits.count
    unfold chunksOf at hcount
    rw [List.length_map] at hcount
    omega
  · intro hmost embed expand_graph reader hstore cache cache' asked filled context h
    constructor
    · obtain ⟨ranked, hcut, hlength, -⟩ := retrieve_cut h
      rw [hcut]
      exact withinLimits_fitting hmost hlength
    · intro calls hcalls hstores
      exact nodup_retrieve hstore hcalls hstores h

/-- The question about the rota, for one hit. -/
def oneQuery : RetrievalQuery := { rotaQuery with top_k := 1, top_k_pos := Nat.zero_lt_one }

/-- Asked for one hit, the small collection answers with two. -/
theorem one_asked_two_returned :
    (∃ ts, IngestRun InMemoryKnowledgeStore.publisher InMemoryKnowledgeStore.empty ts
      ⟨opsStore, []⟩) ∧
    ∃ context cache',
      retrieve (opsRetriever true) opsReader id oneQuery InMemoryKVCache.empty (whole 3)
          (whole 3) = .ok (context, cache') ∧
      chunksOf context = [logChunk, faqChunk] ∧
      ¬ context.hits.length ≤ min oneQuery.top_k opsConfig.max_context_chunks := by
  refine ⟨opsStore_reached, ?_⟩
  have hfresh : (answerFresh (opsRetriever true) opsReader id oneQuery).map
      (fun answer => (chunksOf answer.1, answer.1.hits.length)) =
        .ok ([logChunk, faqChunk], 2) := by
    decide +kernel
  obtain ⟨⟨context, chunk_ids⟩, hanswer, hfields⟩ := map_ok.mp hfresh
  obtain ⟨hchunks, htwo⟩ := Prod.mk.inj hfields
  have hmiss : InMemoryKVCache.empty.get (cacheKey (opsRetriever true) id oneQuery 2) (whole 3) =
      (InMemoryKVCache.empty, none) := rfl
  have hretrieve : retrieve (opsRetriever true) opsReader id oneQuery InMemoryKVCache.empty
      (whole 3) (whole 3) = _ := retrieve_miss rfl hmiss
  rw [hanswer] at hretrieve
  refine ⟨context, _, hretrieve, hchunks, ?_⟩
  have hlength : context.hits.length = 2 := htwo
  rw [hlength]
  decide

end HybridRetriever

end CBrain.Knowledge
