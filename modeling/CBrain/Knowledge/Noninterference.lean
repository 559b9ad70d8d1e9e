import CBrain.Knowledge.MemoryHistory

/-! # What a principal may not read does not matter

    Two in-memory stores that agree on what a principal of a tenant may read
    answer every query of that principal alike.

    The view of a principal is made of the live chunks it may read, of the
    tenant's nodes that one of these supports, each with the ids of its
    supporting chunks, and of the tenant's supported edges.  Each search and
    each walk is a function of the view, so the answers are. -/

namespace CBrain.Knowledge

namespace HybridRetriever

variable {F : Type} [Score F]

/-! ## Section 1: The fresh path reads a store through its ports -/

/-- The candidates are a function of the searches, of what may be loaded and of
    the graph. -/
theorem candidates_congr {r r' : HybridRetriever} {reader reader' : KnowledgeReader F}
    {query query' : RetrievalQuery}
    (hsearch : searches r reader query = searches r' reader' query')
    (hload : ∀ chunk_ids,
      authorizedChunks reader query chunk_ids = authorizedChunks reader' query' chunk_ids)
    (hexpand : r.expand_graph = r'.expand_graph)
    (hgraph : r.expand_graph = true → ∀ chunk_ids chunks,
      authorizedChunks reader query chunk_ids = .ok chunks →
        graphExpand r reader query chunks = graphExpand r' reader' query' chunks) :
    candidates r reader query = candidates r' reader' query' := by
  unfold candidates
  rw [← hsearch]
  cases searches r reader query with
  | error e => rfl
  | ok found =>
    obtain ⟨vector_hits, keyword_hits⟩ := found
    simp only [bind, Except.bind]
    rw [← hload]
    cases hchunks : authorizedChunks reader query
        ((reciprocalRankFusion (F := F) [vector_hits.map Prod.fst, keyword_hits.map Prod.fst]).map
          Prod.fst) with
    | error e => rfl
    | ok chunks =>
      simp only []
      rw [← hexpand]
      by_cases he : r.expand_graph = true
      · simp only [if_pos he]
        rw [← hgraph he _ chunks hchunks]
        cases graphExpand r reader query chunks with
        | error e => rfl
        | ok expanded =>
          simp only []
          rw [← hload]
      · simp only [if_neg he]

end HybridRetriever

namespace InMemoryKnowledgeStore

/-! ## Section 2: The view of a principal -/

variable (store : InMemoryKnowledgeStore) (tenant_id principal_id : RequiredText)

/-- The ids among a record's provenance that the principal may read. -/
def readableIds (provenance : List RequiredText) : List RequiredText :=
  provenance.filter fun chunk_id => (store.allowedChunk tenant_id principal_id chunk_id.val).isSome

/-- The tenant's supported nodes, with their supporting ids. -/
def nodeView : Table RequiredText (List RequiredText) :=
  store.nodes.project
    (fun node => node.tenant_id = tenant_id &&
      store.supported tenant_id principal_id node.provenance_chunk_ids)
    fun node => store.readableIds tenant_id principal_id node.provenance_chunk_ids

/-- An edge as a walk sees it. -/
structure EdgeView where
  edge_id : RequiredText
  source_node_id : RequiredText
  target_node_id : RequiredText
  deriving DecidableEq

/-- The tenant's supported edges. -/
def edgeView : List EdgeView :=
  (store.supportedEdges tenant_id principal_id).map fun edge =>
    ⟨edge.edge_id, edge.source_node_id, edge.target_node_id⟩

/-- The chunk of an id, if the principal may read it in the collection. -/
def readableChunk (collection : CollectionKey) (principal_id : RequiredText) (chunk_id : String) :
    Option KnowledgeChunk :=
  (store.allowedChunk collection.tenant_id principal_id chunk_id).filter fun chunk =>
    chunk.collection_id = collection.collection_id

/-- The stores hold the same chunks that the principal may read in a collection,
    with the same embeddings. -/
structure AgreeOnCollection (store store' : InMemoryKnowledgeStore) (collection : CollectionKey)
    (principal_id : RequiredText) : Prop where
  chunks : ∀ chunk_id, store.readableChunk collection principal_id chunk_id =
    store'.readableChunk collection principal_id chunk_id
  embeddings : ∀ chunk_id,
    (store.readableChunk collection principal_id chunk_id).isSome = true →
      store.embeddings.get? chunk_id = store'.embeddings.get? chunk_id

/-- The stores hold the same chunks that the principal may read, with the same
    embeddings. -/
structure AgreeOnChunks (store store' : InMemoryKnowledgeStore)
    (tenant_id principal_id : RequiredText) : Prop where
  chunks : ∀ chunk_id, store.allowedChunk tenant_id principal_id chunk_id =
    store'.allowedChunk tenant_id principal_id chunk_id
  embeddings : ∀ chunk_id, (store.allowedChunk tenant_id principal_id chunk_id).isSome = true →
    store.embeddings.get? chunk_id = store'.embeddings.get? chunk_id

/-- The stores look alike to the principal. -/
structure Agree (store store' : InMemoryKnowledgeStore) (tenant_id principal_id : RequiredText) :
    Prop extends AgreeOnChunks store store' tenant_id principal_id where
  nodes : store.nodeView tenant_id principal_id = store'.nodeView tenant_id principal_id
  edges : store.edgeView tenant_id principal_id = store'.edgeView tenant_id principal_id

variable {store} {tenant_id principal_id}

theorem allowedChunk_eq_some {chunk_id : String} {chunk : KnowledgeChunk} :
    store.allowedChunk tenant_id principal_id chunk_id = some chunk ↔
      store.chunks.get? chunk_id = some chunk ∧ store.isTombstoned chunk = false ∧
        chunk.tenant_id = tenant_id ∧ authorized chunk principal_id = true := by
  unfold allowedChunk findChunk
  rw [Option.filter_eq_some_iff, Option.filter_eq_some_iff]
  simp [and_assoc]

/-! ## Section 3: Searches see the view -/

variable {store' : InMemoryKnowledgeStore}

theorem readableChunk_eq_some {collection : CollectionKey} {chunk_id : String}
    {chunk : KnowledgeChunk} :
    store.readableChunk collection principal_id chunk_id = some chunk ↔
      store.chunks.get? chunk_id = some chunk ∧ store.isTombstoned chunk = false ∧
        chunk.key.collection = collection ∧ authorized chunk principal_id = true := by
  unfold readableChunk
  rw [Option.filter_eq_some_iff, allowedChunk_eq_some]
  obtain ⟨tenant_id, collection_id⟩ := collection
  simp only [decide_eq_true_eq, SourceKey.collection, KnowledgeChunk.key, CollectionKey.mk.injEq]
  tauto

theorem AgreeOnChunks.collection {collection : CollectionKey}
    (h : AgreeOnChunks store store' collection.tenant_id principal_id) :
    AgreeOnCollection store store' collection principal_id where
  chunks := by
    intro chunk_id
    unfold readableChunk
    rw [h.chunks]
  embeddings := by
    intro chunk_id hsome
    apply h.embeddings
    unfold readableChunk at hsome
    cases hallowed : store.allowedChunk collection.tenant_id principal_id chunk_id with
    | none =>
      rw [hallowed] at hsome
      cases hsome
    | some chunk => rfl

/-- A live chunk is a readable one, found under its id. -/
theorem mem_listLiveChunks {collection : CollectionKey} {chunk : KnowledgeChunk} :
    chunk ∈ store.listLiveChunks collection principal_id ↔
      store.readableChunk collection principal_id chunk.chunk_id = some chunk := by
  unfold listLiveChunks
  rw [List.mem_sortBy, List.mem_filter, readableChunk_eq_some, Registry.mem_values]
  simp only [Bool.and_eq_true, decide_eq_true_eq, Bool.not_eq_true']
  tauto

theorem AgreeOnCollection.listLiveChunks {collection : CollectionKey}
    (h : AgreeOnCollection store store' collection principal_id) :
    store.listLiveChunks collection principal_id = store'.listLiveChunks collection principal_id := by
  -- Both are the same chunks in the order of their ids.
  have hmem (chunk : KnowledgeChunk) : chunk ∈ store.listLiveChunks collection principal_id ↔
      chunk ∈ store'.listLiveChunks collection principal_id := by
    rw [mem_listLiveChunks, mem_listLiveChunks, h.chunks]
  have hnodup (s : InMemoryKnowledgeStore) :
      (s.chunks.values.filter fun chunk => chunk.key.collection = collection &&
        authorized chunk principal_id && !s.isTombstoned chunk).Nodup :=
    (Registry.nodup_values s.chunks).filter _
  unfold InMemoryKnowledgeStore.listLiveChunks at hmem ⊢
  apply List.sortBy_congr
  · apply (List.perm_ext_iff_of_nodup (hnodup store) (hnodup store')).mpr
    intro chunk
    simpa using hmem chunk
  · intro a ha b hb hid
    exact Registry.eq_of_key (List.mem_filter.mp ha).1 (List.mem_filter.mp hb).1 hid

section search
variable {F : Type} [Score F] {similarity : List Decimal → List Decimal → F}
  {casefold : String → String}

theorem AgreeOnCollection.searchVector {collection : CollectionKey}
    (h : AgreeOnCollection store store' collection principal_id) (vector : List Decimal)
    (limit : Nat) :
    store.searchVector similarity collection principal_id vector limit =
      store'.searchVector similarity collection principal_id vector limit := by
  unfold InMemoryKnowledgeStore.searchVector
  rw [← h.listLiveChunks]
  have hembedded : ((store.listLiveChunks collection principal_id).filterMap fun chunk =>
        (store.embeddings.get? chunk.chunk_id).map fun embedding => (chunk.chunk_id, embedding)) =
      (store.listLiveChunks collection principal_id).filterMap fun chunk =>
        (store'.embeddings.get? chunk.chunk_id).map fun embedding =>
          (chunk.chunk_id, embedding) := by
    apply List.filterMap_congr
    intro chunk hchunk
    rw [h.embeddings chunk.chunk_id (by rw [mem_listLiveChunks.mp hchunk]; rfl)]
  rw [hembedded]

theorem AgreeOnCollection.searchKeyword {collection : CollectionKey}
    (h : AgreeOnCollection store store' collection principal_id) {text text' : String}
    (hterms : queryTerms casefold text = queryTerms casefold text') (limit : Nat) :
    (store.searchKeyword casefold collection principal_id text limit : List (String × F)) =
      store'.searchKeyword casefold collection principal_id text' limit := by
  unfold InMemoryKnowledgeStore.searchKeyword
  rw [← h.listLiveChunks, hterms]

/-- What may be loaded is what may be read. -/
theorem authorizedChunks_eq (query : RetrievalQuery) (chunk_ids : List String) :
    HybridRetriever.authorizedChunks (store.reader similarity casefold) query chunk_ids =
      .ok (chunk_ids.filterMap (store.readableChunk query.collection query.principal_id)) := by
  unfold HybridRetriever.authorizedChunks
  show Except.ok ((chunk_ids.filterMap store.findChunk).filter _) = _
  congr 1
  rw [List.filter_filterMap]
  apply List.filterMap_congr
  intro chunk_id _
  unfold readableChunk allowedChunk
  rw [Option.filter_filter]
  apply Option.ext
  intro chunk
  rw [Option.filter_eq_some_iff, Option.filter_eq_some_iff]
  unfold HybridRetriever.readable RetrievalQuery.collection
  simp only [Bool.and_eq_true, decide_eq_true_eq]
  tauto

end search

/-! ## Section 4: Walks see the view -/

/-- The graph of a view. -/
def viewGraph (nodes : Table RequiredText (List RequiredText)) (edges : List EdgeView) :
    WalkGraph RequiredText (List RequiredText) EdgeView where
  node := nodes.get?
  edges k := (edges.filter fun edge => edge.source_node_id = k ∧
    (nodes.get? edge.source_node_id).isSome ∧ (nodes.get? edge.target_node_id).isSome).sortBy
      EdgeView.edge_id
  target := EdgeView.target_node_id

/-- The graph that `traverse` walks. -/
def graph (store : InMemoryKnowledgeStore) (tenant_id principal_id : RequiredText) :
    VisibleGraph :=
  visibleGraph (store.visibleNode tenant_id principal_id)
    (store.supportedEdges tenant_id principal_id)

theorem get?_nodeView (k : RequiredText) :
    (store.nodeView tenant_id principal_id).get? k =
      (store.visibleNode tenant_id principal_id k).map fun node =>
        store.readableIds tenant_id principal_id node.provenance_chunk_ids :=
  Registry.get?_project store.nodes _ _ k

/-- The view's graph is the image of the one that is walked. -/
theorem isImage_viewGraph :
    WalkGraph.IsImage
      (fun node => store.readableIds tenant_id principal_id node.provenance_chunk_ids)
      (fun edge => ⟨edge.edge_id, edge.source_node_id, edge.target_node_id⟩)
      (store.graph tenant_id principal_id)
      (viewGraph (store.nodeView tenant_id principal_id)
        (store.edgeView tenant_id principal_id)) where
  node := get?_nodeView
  edges := by
    intro k
    unfold viewGraph graph visibleGraph edgeView
    simp only [get?_nodeView, Option.isSome_map, List.filter_map]
    rw [List.sortBy_map]
    rfl
  target _ := rfl

/-- The citations of a path, from the readable ids of its nodes. -/
def citationsOfView (find : String → Option KnowledgeChunk) (nodes : List (List RequiredText)) :
    List Citation :=
  (citedChunks find [] (nodes.flatMap fun ids => ids.map Subtype.val)).map KnowledgeChunk.citation

theorem citationsForNodes_eq (nodes : List GraphNode) :
    citationsForNodes (store.allowedChunk tenant_id principal_id) nodes =
      citationsOfView (store.allowedChunk tenant_id principal_id)
        (nodes.map fun node =>
          store.readableIds tenant_id principal_id node.provenance_chunk_ids) := by
  unfold citationsForNodes citationsOfView
  rw [← citedChunks_filter]
  congr 2
  unfold provenanceIds readableIds
  rw [List.filter_flatMap, List.flatMap_map]
  congr 1
  funext node
  rw [List.filter_map]
  rfl

/-- All citations of the walks from some seeds, from the view. -/
def viewCitations (find : String → Option KnowledgeChunk)
    (g : WalkGraph RequiredText (List RequiredText) EdgeView) (seeds : List RequiredText)
    (max_depth max_nodes : Nat) : List Citation :=
  seeds.flatMap fun seed =>
    (g.walkFrom max_depth max_nodes seed).flatMap fun t =>
      if t.nodes = [] then [] else citationsOfView find t.nodes

theorem traverse_citations (seeds : List RequiredText) (max_depth max_nodes : Nat) :
    (store.traverse tenant_id principal_id seeds max_depth max_nodes).flatMap GraphPath.citations =
      viewCitations (store.allowedChunk tenant_id principal_id)
        (viewGraph (store.nodeView tenant_id principal_id)
          (store.edgeView tenant_id principal_id))
        seeds max_depth max_nodes := by
  unfold traverse viewCitations
  rw [boundedWalk_citations]
  congr 1
  funext seed
  rw [WalkGraph.walk_map isImage_viewGraph, List.flatMap_map]
  congr 1
  funext t
  have hnodes : (WalkGraph.mapTrail
      (fun node => store.readableIds tenant_id principal_id node.provenance_chunk_ids)
      (fun edge : GraphEdge =>
        (⟨edge.edge_id, edge.source_node_id, edge.target_node_id⟩ : EdgeView)) t).nodes =
      t.nodes.map fun node =>
        store.readableIds tenant_id principal_id node.provenance_chunk_ids := rfl
  rw [hnodes, citationsForNodes_eq]
  simp only [List.map_eq_nil_iff]

/-- A seed that the walk does not show adds nothing. -/
theorem viewCitations_filter {find : String → Option KnowledgeChunk}
    {g : WalkGraph RequiredText (List RequiredText) EdgeView} {seeds : List RequiredText}
    {max_depth max_nodes : Nat} :
    viewCitations find g (seeds.filter fun seed => (g.node seed).isSome) max_depth max_nodes =
      viewCitations find g seeds max_depth max_nodes := by
  unfold viewCitations
  induction seeds with
  | nil => rfl
  | cons seed seeds ih =>
    by_cases hseed : (g.node seed).isSome = true
    · rw [List.filter_cons, if_pos hseed, List.flatMap_cons, List.flatMap_cons, ih]
    · have hnone : g.node seed = none := by simpa using hseed
      have hwalk : g.walkFrom max_depth max_nodes seed = [] := by
        unfold WalkGraph.walkFrom
        rw [hnone]
      rw [List.filter_cons, if_neg hseed, List.flatMap_cons, hwalk, ih]
      rfl

/-- The seeds of some readable chunks, from the view. -/
def viewSeeds (nodes : Table RequiredText (List RequiredText)) (chunk_ids : List String) :
    List RequiredText :=
  (nodes.rows.filter fun row => row.2.any fun chunk_id => chunk_id.val ∈ chunk_ids).map Prod.fst

/-- Among the nodes that mention some readable chunks, those of the view: a walk
    shows nothing of the others, which are other tenants' nodes. -/
theorem seeds_eq {chunk_ids : List String}
    (hread : ∀ chunk_id ∈ chunk_ids,
      (store.allowedChunk tenant_id principal_id chunk_id).isSome = true) :
    (((store.nodesForChunks chunk_ids).map GraphNode.node_id).filter fun seed =>
        ((store.nodeView tenant_id principal_id).get? seed).isSome) =
      viewSeeds (store.nodeView tenant_id principal_id) chunk_ids := by
  unfold viewSeeds
  show _ = (((store.nodes.values.filter _).map _).filter _).map Prod.fst
  rw [List.filter_map, List.filter_map, List.map_map, List.filter_filter]
  unfold nodesForChunks
  rw [List.filter_filter]
  show List.map GraphNode.node_id _ = List.map GraphNode.node_id _
  congr 1
  apply List.filter_congr
  intro node hnode
  simp only [Function.comp_apply, get?_nodeView, Option.isSome_map]
  have hget := Registry.mem_values.mp hnode
  have hvisible : (store.visibleNode tenant_id principal_id node.node_id).isSome =
      (decide (node.tenant_id = tenant_id) &&
        store.supported tenant_id principal_id node.provenance_chunk_ids) := by
    unfold visibleNode
    rw [hget, Option.filter_some]
    split
    · next h => rw [h]; rfl
    · next h => simpa using h
  have hmention : (store.readableIds tenant_id principal_id node.provenance_chunk_ids).any
        (fun chunk_id => chunk_id.val ∈ chunk_ids) =
      node.provenance_chunk_ids.any fun chunk_id => chunk_id.val ∈ chunk_ids := by
    unfold readableIds
    rw [List.any_filter]
    congr 1
    funext chunk_id
    by_cases hmem : chunk_id.val ∈ chunk_ids
    · simp [hmem, hread _ hmem]
    · simp [hmem]
  rw [hvisible, hmention, Bool.and_comm]

section expand
variable {F : Type} [Score F] {similarity : List Decimal → List Decimal → F}
  {casefold : String → String}

/-- Graph expansion from readable chunks, from the view. -/
theorem graphExpand_eq {r : HybridRetriever} {query : RetrievalQuery}
    {chunks : List KnowledgeChunk}
    (hread : ∀ chunk ∈ chunks,
      (store.allowedChunk query.tenant_id query.principal_id chunk.chunk_id).isSome = true) :
    HybridRetriever.graphExpand r (store.reader similarity casefold) query chunks =
      HybridRetriever.authorizedChunks (store.reader similarity casefold) query
        ((viewCitations (store.allowedChunk query.tenant_id query.principal_id)
          (viewGraph (store.nodeView query.tenant_id query.principal_id)
            (store.edgeView query.tenant_id query.principal_id))
          (viewSeeds (store.nodeView query.tenant_id query.principal_id)
            (chunks.map KnowledgeChunk.chunk_id))
          r.config.graph_max_depth r.config.graph_max_nodes).map Citation.chunk_id) := by
  unfold HybridRetriever.graphExpand
  show HybridRetriever.authorizedChunks (store.reader similarity casefold) query
    (((store.traverse query.tenant_id query.principal_id
      ((store.nodesForChunks (chunks.map KnowledgeChunk.chunk_id)).map GraphNode.node_id)
      r.config.graph_max_depth r.config.graph_max_nodes).flatMap GraphPath.citations).map
        Citation.chunk_id) = _
  have hids : ∀ chunk_id ∈ chunks.map KnowledgeChunk.chunk_id,
      (store.allowedChunk query.tenant_id query.principal_id chunk_id).isSome = true := by
    intro chunk_id hmem
    obtain ⟨chunk, hchunk, rfl⟩ := List.mem_map.mp hmem
    exact hread chunk hchunk
  rw [traverse_citations, ← viewCitations_filter]
  have hseeds := seeds_eq hids
  unfold viewGraph at hseeds ⊢
  simp only
  rw [hseeds]

/-- The chunks that were loaded may be read. -/
theorem allowed_of_authorized {query : RetrievalQuery} {chunk_ids : List String}
    {chunks : List KnowledgeChunk}
    (h : HybridRetriever.authorizedChunks (store.reader similarity casefold) query chunk_ids =
      .ok chunks) :
    ∀ chunk ∈ chunks,
      (store.allowedChunk query.tenant_id query.principal_id chunk.chunk_id).isSome = true := by
  intro chunk hchunk
  rw [authorizedChunks_eq] at h
  obtain rfl := Except.ok.inj h
  obtain ⟨chunk_id, -, hsome⟩ := List.mem_filterMap.mp hchunk
  obtain ⟨hallowed, -⟩ := Option.filter_eq_some_iff.mp hsome
  have hid := Registry.key_of_get? (allowedChunk_eq_some.mp hallowed).1
  have hfound : store.allowedChunk query.tenant_id query.principal_id chunk.chunk_id =
      some chunk := hid ▸ hallowed
  rw [hfound]
  rfl

end expand

/-! ## Section 5: Calls that read the same -/

/-- The limits that retrieval reads in a configuration. -/
structure SameLimits (config config' : KnowledgeConfig) : Prop where
  top_k : config.top_k = config'.top_k
  vector_candidate_count : config.vector_candidate_count = config'.vector_candidate_count
  keyword_candidate_count : config.keyword_candidate_count = config'.keyword_candidate_count
  graph_max_depth : config.graph_max_depth = config'.graph_max_depth
  graph_max_nodes : config.graph_max_nodes = config'.graph_max_nodes
  max_context_chunks : config.max_context_chunks = config'.max_context_chunks
  max_context_bytes : config.max_context_bytes = config'.max_context_bytes
  max_context_tokens : config.max_context_tokens = config'.max_context_tokens

/-- The queries are asked by one principal of one collection. -/
structure SameAsker (query query' : RetrievalQuery) : Prop where
  tenant_id : query.tenant_id = query'.tenant_id
  collection_id : query.collection_id = query'.collection_id
  principal_id : query.principal_id = query'.principal_id

section calls
variable {F : Type} [Score F] {similarity : List Decimal → List Decimal → F}
  {casefold : String → String} {r r' : HybridRetriever} {query query' : RetrievalQuery}

theorem authorizedChunks_congr (hasker : SameAsker query query')
    (h : AgreeOnCollection store store' query.collection query.principal_id)
    (chunk_ids : List String) :
    HybridRetriever.authorizedChunks (store.reader similarity casefold) query chunk_ids =
      HybridRetriever.authorizedChunks (store'.reader similarity casefold) query' chunk_ids := by
  have hcollection : query.collection = query'.collection := by
    unfold RetrievalQuery.collection
    rw [hasker.tenant_id, hasker.collection_id]
  rw [authorizedChunks_eq, authorizedChunks_eq, funext h.chunks, hcollection, hasker.principal_id]

theorem searches_congr (hasker : SameAsker query query') (hlimits : SameLimits r.config r'.config)
    (hvector : r.queryVector query = r'.queryVector query')
    (hterms : queryTerms casefold query.text.val = queryTerms casefold query'.text.val)
    (h : AgreeOnCollection store store' query.collection query.principal_id) :
    HybridRetriever.searches r (store.reader similarity casefold) query =
      HybridRetriever.searches r' (store'.reader similarity casefold) query' := by
  have hcollection : query.collection = query'.collection := by
    unfold RetrievalQuery.collection
    rw [hasker.tenant_id, hasker.collection_id]
  unfold HybridRetriever.searches reader
  rw [hvector]
  congr 1
  funext vector
  simp only
  rw [h.searchVector, h.searchKeyword hterms, hcollection, hasker.principal_id,
    hlimits.vector_candidate_count, hlimits.keyword_candidate_count]

/-- Stores that agree are expanded alike. -/
theorem graphExpand_congr (hasker : SameAsker query query')
    (hlimits : SameLimits r.config r'.config)
    (h : Agree store store' query.tenant_id query.principal_id) {chunk_ids : List String}
    {chunks : List KnowledgeChunk}
    (hchunks : HybridRetriever.authorizedChunks (store.reader similarity casefold) query chunk_ids =
      .ok chunks) :
    HybridRetriever.graphExpand r (store.reader similarity casefold) query chunks =
      HybridRetriever.graphExpand r' (store'.reader similarity casefold) query' chunks := by
  have hread := allowed_of_authorized hchunks
  have hread' : ∀ chunk ∈ chunks,
      (store'.allowedChunk query'.tenant_id query'.principal_id chunk.chunk_id).isSome = true := by
    intro chunk hchunk
    rw [← hasker.tenant_id, ← hasker.principal_id, ← h.chunks]
    exact hread chunk hchunk
  have hfind : store.allowedChunk query.tenant_id query.principal_id =
      store'.allowedChunk query'.tenant_id query'.principal_id := by
    rw [← hasker.tenant_id, ← hasker.principal_id]
    exact funext h.chunks
  have hcollection : AgreeOnCollection store store' query.collection query.principal_id :=
    h.toAgreeOnChunks.collection
  rw [graphExpand_eq hread, graphExpand_eq hread', ← authorizedChunks_congr hasker hcollection,
    hfind, h.nodes, h.edges, hlimits.graph_max_depth, hlimits.graph_max_nodes, hasker.tenant_id,
    hasker.principal_id]

/-- Calls that read the same have the same candidates. -/
theorem candidates_eq (hasker : SameAsker query query') (hlimits : SameLimits r.config r'.config)
    (hvector : r.queryVector query = r'.queryVector query')
    (hterms : queryTerms casefold query.text.val = queryTerms casefold query'.text.val)
    (hexpand : r.expand_graph = r'.expand_graph)
    (h : AgreeOnCollection store store' query.collection query.principal_id)
    (hgraph : r.expand_graph = true → Agree store store' query.tenant_id query.principal_id) :
    HybridRetriever.candidates r (store.reader similarity casefold) query =
      HybridRetriever.candidates r' (store'.reader similarity casefold) query' :=
  HybridRetriever.candidates_congr (searches_congr hasker hlimits hvector hterms h)
    (authorizedChunks_congr hasker h) hexpand fun he _ _ hchunks =>
      graphExpand_congr hasker hlimits (hgraph he) hchunks

end calls

end InMemoryKnowledgeStore

/-! ## Section 6: The two-store theorem -/

open InMemoryKnowledgeStore

/-- Two stores that look alike to a principal of a tenant, and hold the queried
    collection at the same revision, answer each query of the principal with
    the same hits, scores and order, whatever else they hold. -/
theorem retrieval_noninterference {F : Type} [Score F] {store store' : InMemoryKnowledgeStore}
    {query : RetrievalQuery} (hagree : Agree store store' query.tenant_id query.principal_id)
    (hrevision : store.collectionRevision query.collection =
      store'.collectionRevision query.collection)
    (r : HybridRetriever) (similarity : List Decimal → List Decimal → F)
    (casefold : String → String) (asked filled : Decimal) :
    r.retrieve (store.reader similarity casefold) casefold query InMemoryKVCache.empty asked filled =
      r.retrieve (store'.reader similarity casefold) casefold query InMemoryKVCache.empty asked
        filled := by
  have hcandidates : r.candidates (store.reader similarity casefold) query =
      r.candidates (store'.reader similarity casefold) query :=
    candidates_eq ⟨rfl, rfl, rfl⟩ ⟨rfl, rfl, rfl, rfl, rfl, rfl, rfl, rfl⟩ rfl rfl rfl
      hagree.toAgreeOnChunks.collection fun _ => hagree
  have hfresh : r.answerFresh (store.reader similarity casefold) casefold query =
      r.answerFresh (store'.reader similarity casefold) casefold query := by
    unfold HybridRetriever.answerFresh
    rw [hcandidates]
  have hkey : (store.reader similarity casefold).collection_revision query.collection =
      (store'.reader similarity casefold).collection_revision query.collection :=
    congrArg Except.ok hrevision
  unfold HybridRetriever.retrieve
  rw [hkey]
  congr 1
  funext collection_revision
  -- The empty cache misses.
  show (r.retrieveWith _ casefold query none >>= _) = (r.retrieveWith _ casefold query none >>= _)
  unfold HybridRetriever.retrieveWith
  rw [hfresh]

/-- Bob, who may read the log but not the FAQ. -/
def bob : RequiredText := ⟨"bob", by decide⟩

/-- The small collection without the FAQ. -/
def logStore : InMemoryKnowledgeStore where
  revisions := ⟨[(logChunk.key, revisionOf logChunk)], by decide⟩
  chunks := ⟨⟨[(logId.val, logChunk)], by decide⟩, by decide⟩
  live_chunks := ⟨[(logChunk.key, [logId.val])], by decide⟩
  embeddings := ⟨[(logId.val, [whole 114])], by decide⟩
  nodes := ⟨⟨[(shifts, sourceNode logChunk logId)], by decide⟩, by decide⟩
  edges := opsStore.edges
  collection_revisions := opsStore.collection_revisions
  profiles := opsStore.profiles

/-- Bob cannot tell whether there is an FAQ. -/
theorem agree_opsStore_logStore : Agree opsStore logStore acme bob where
  chunks := by
    intro chunk_id
    by_cases hfaq : chunk_id = faqId.val
    · subst hfaq
      decide +kernel
    · by_cases hlog : chunk_id = logId.val
      · subst hlog
        decide +kernel
      · have hops : opsStore.chunks.get? chunk_id = none := by
          show List.lookup chunk_id [(faqId.val, faqChunk), (logId.val, logChunk)] = none
          rw [Table.lookup_row, if_neg hfaq, Table.lookup_row, if_neg hlog]
          rfl
        have hlogs : logStore.chunks.get? chunk_id = none := by
          show List.lookup chunk_id [(logId.val, logChunk)] = none
          rw [Table.lookup_row, if_neg hlog]
          rfl
        unfold allowedChunk findChunk
        rw [hops, hlogs]
        rfl
  embeddings := by
    intro chunk_id hsome
    obtain ⟨chunk, hchunk⟩ := Option.isSome_iff_exists.mp hsome
    obtain ⟨hget, -, -, hauthorized⟩ := allowedChunk_eq_some.mp hchunk
    have hmem : (chunk_id, chunk) ∈ [(faqId.val, faqChunk), (logId.val, logChunk)] :=
      Table.mem_rows.mpr hget
    rcases List.mem_cons.mp hmem with heq | hmem
    · -- The FAQ's chunk is Alice's.
      obtain ⟨rfl, rfl⟩ := Prod.mk.inj heq
      exact absurd hauthorized (by decide)
    · obtain ⟨rfl, rfl⟩ := Prod.mk.inj (List.mem_singleton.mp hmem)
      decide +kernel
  nodes := by decide +kernel
  edges := by decide +kernel

/-- What Bob asks. -/
def bobQuery : RetrievalQuery :=
  { opsQuery ⟨"rota", isRequiredText_rota⟩ with principal_id := bob }

theorem retrieval_noninterference_bob :
    (opsRetriever true).retrieve (opsStore.reader sameLetter id) id bobQuery
        InMemoryKVCache.empty 0 0 =
      (opsRetriever true).retrieve (logStore.reader sameLetter id) id bobQuery
        InMemoryKVCache.empty 0 0 := by
  have hrevision : opsStore.collectionRevision bobQuery.collection =
      logStore.collectionRevision bobQuery.collection := by
    decide +kernel
  have hagree : Agree opsStore logStore bobQuery.tenant_id bobQuery.principal_id :=
    agree_opsStore_logStore
  exact retrieval_noninterference hagree hrevision (opsRetriever true) sameLetter id 0 0

end CBrain.Knowledge
