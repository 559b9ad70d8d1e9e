import CBrain.Knowledge.PublishedChunks

/-! # Citations of graph paths

    A path over the graph cites the chunks that support its nodes.  Which nodes
    a principal sees is decided by one supporting chunk that it may read; which
    chunks are cited is decided again, chunk by chunk, by the in-memory store,
    and not at all by the PostgreSQL store.

    * `CitesReadable` : what a citation should be.
    * `Sealed`        : a visible node is supported by nothing but readable
                        chunks. -/

namespace CBrain.Knowledge

/-- `KnowledgeRuntime.graph_path`. -/
def graphPath {F : Type} (config : KnowledgeConfig) (reader : KnowledgeReader F)
    (tenant_id principal_id : RequiredText) (seed_node_ids : List RequiredText) :
    Raises (List GraphPath) :=
  reader.traverse tenant_id principal_id seed_node_ids config.graph_max_depth
    config.graph_max_nodes

/-- The chunk is the tenant's and lists the principal or the wildcard. -/
def ReadableBy (tenant_id principal_id : RequiredText) (chunk : KnowledgeChunk) : Prop :=
  chunk.tenant_id = tenant_id ∧
    (principal_id ∈ chunk.acl_principals ∨ wildcard ∈ chunk.acl_principals)

theorem readableBy_iff {tenant_id principal_id : RequiredText} {chunk : KnowledgeChunk} :
    ReadableBy tenant_id principal_id chunk ↔
      (chunk.tenant_id = tenant_id ∧ authorized chunk principal_id = true) := by
  unfold ReadableBy authorized
  simp only [Bool.or_eq_true, decide_eq_true_eq]

/-- The citation is of a live chunk that the principal may read. -/
def CitesReadable (Live : KnowledgeChunk → Prop) (tenant_id principal_id : RequiredText)
    (citation : Citation) : Prop :=
  ∃ chunk, Live chunk ∧ citation = chunk.citation ∧ ReadableBy tenant_id principal_id chunk

/-- The citations of some nodes are of chunks that are found under their ids. -/
theorem mem_citationsForNodes {find : String → Option KnowledgeChunk} {nodes : List GraphNode}
    {citation : Citation} (h : citation ∈ citationsForNodes find nodes) :
    ∃ node ∈ nodes, ∃ chunk_id ∈ node.provenance_chunk_ids, ∃ chunk,
      find chunk_id.val = some chunk ∧ citation = chunk.citation := by
  unfold citationsForNodes at h
  obtain ⟨chunk, hcited, rfl⟩ := List.mem_map.mp h
  obtain ⟨id, hid, hfind⟩ := mem_citedChunks hcited
  obtain ⟨node, hnode, hmem⟩ := List.mem_flatMap.mp hid
  obtain ⟨chunk_id, hchunk_id, rfl⟩ := List.mem_map.mp hmem
  exact ⟨node, hnode, chunk_id, hchunk_id, chunk, hfind, rfl⟩

/-- A node alone cites every chunk that is found under one of its ids. -/
theorem citationsForNodes_of_find {find : String → Option KnowledgeChunk} {node : GraphNode}
    {chunk_id : RequiredText} {chunk : KnowledgeChunk}
    (hmem : chunk_id ∈ node.provenance_chunk_ids) (hfind : find chunk_id.val = some chunk) :
    chunk.citation ∈ citationsForNodes find [node] := by
  unfold citationsForNodes
  apply List.mem_map_of_mem
  apply mem_citedChunks_of_find _ hfind List.not_mem_nil
  unfold provenanceIds
  simp only [List.flatMap_cons, List.flatMap_nil, List.append_nil]
  exact List.mem_map_of_mem hmem

/-! ## Section 1: The in-memory store -/

namespace InMemoryKnowledgeStore

/-- After any history, a path cites live chunks that the principal may read. -/
theorem traverse_cites {ts : List (IngestTransition InMemoryKnowledgeStore)}
    {st : IngestState InMemoryKnowledgeStore} (hrun : IngestRun publisher empty ts st)
    {tenant_id principal_id : RequiredText} {seeds : List RequiredText} {max_depth max_nodes : Nat}
    {path : GraphPath}
    (h : path ∈ st.store.traverse tenant_id principal_id seeds max_depth max_nodes) :
    ∀ citation ∈ path.citations,
      CitesReadable st.store.Latest tenant_id principal_id citation := by
  intro citation hcitation
  unfold traverse at h
  obtain ⟨hcites, -⟩ := boundedWalk_path h
  rw [hcites] at hcitation
  obtain ⟨-, -, chunk_id, -, chunk, hallowed, rfl⟩ := mem_citationsForNodes hcitation
  unfold allowedChunk at hallowed
  obtain ⟨hfind, hread⟩ := Option.filter_eq_some_iff.mp hallowed
  simp only [Bool.and_eq_true, decide_eq_true_eq] at hread
  exact ⟨chunk, (consistent_of_run hrun).latest_of_find hfind, rfl, readableBy_iff.mpr hread⟩

end InMemoryKnowledgeStore

/-! ## Section 2: The PostgreSQL store -/

namespace PostgresKnowledgeStore

variable (store : PostgresKnowledgeStore)

/-- The chunk is one of the latest revision of its source, which is not
    tombstoned. -/
def Latest (chunk : KnowledgeChunk) : Prop :=
  store.chunks.get? chunk.chunk_id = some chunk ∧
    ∃ revision, store.getRevision chunk.key = some revision ∧ revision.tombstoned = false ∧
      chunk.source_revision = revision.source_revision

/-- What a principal sees is supported by nothing but chunks that it may read:
    whatever live chunks a visible node names. -/
def Sealed (tenant_id principal_id : RequiredText) : Prop :=
  ∀ node_id node, store.visibleNode tenant_id principal_id node_id = some node →
    ∀ chunk_id ∈ node.provenance_chunk_ids, ∀ chunk,
      store.findChunk chunk_id.val = some chunk → ReadableBy tenant_id principal_id chunk

variable {store} {tenant_id principal_id : RequiredText}

theorem latest_of_find {chunk_id : String} {chunk : KnowledgeChunk}
    (h : store.findChunk chunk_id = some chunk) : store.Latest chunk := by
  obtain ⟨hget, revision, hrevision, hnumber, hlive⟩ := findChunk_eq_some.mp h
  constructor
  · rw [Registry.key_of_get? hget]
    exact hget
  · exact ⟨revision, hrevision, hlive, hnumber.symm⟩

/-- A live chunk is the only one with its citation. -/
theorem readable_of_cites {chunk_id : String} {chunk : KnowledgeChunk}
    (hfind : store.findChunk chunk_id = some chunk)
    (h : CitesReadable store.Latest tenant_id principal_id chunk.citation) :
    ReadableBy tenant_id principal_id chunk := by
  obtain ⟨other, hlatest, hcitation, hread⟩ := h
  have hid : chunk.chunk_id = other.chunk_id := congrArg Citation.chunk_id hcitation
  obtain ⟨hget, -⟩ := latest_of_find hfind
  rw [hid, hlatest.1] at hget
  obtain rfl := Option.some.inj hget
  exact hread

/-- The paths of the tables cite only what the principal may read exactly when
    what it sees is sealed. -/
theorem traverse_cites_iff {max_depth max_nodes : Nat} (hpos : 0 < max_nodes) :
    (∀ seeds, ∀ path ∈ store.traverse tenant_id principal_id seeds max_depth max_nodes,
      ∀ citation ∈ path.citations, CitesReadable store.Latest tenant_id principal_id citation) ↔
      store.Sealed tenant_id principal_id := by
  constructor
  · intro hall node_id node hvisible chunk_id hmem chunk hfind
    -- The walk from the node itself cites all that supports it.
    have hcited := citationsForNodes_of_find hmem hfind
    have hsome : citationsForNodes store.findChunk [node] ≠ [] := List.ne_nil_of_mem hcited
    have hseed : (visibleGraph (store.visibleNode tenant_id principal_id)
        (store.supportedEdges tenant_id principal_id)).node node_id = some node := hvisible
    obtain ⟨path, hpath, hcites⟩ : ∃ path ∈ store.traverse tenant_id principal_id [node_id]
        max_depth max_nodes, path.citations = citationsForNodes store.findChunk [node] :=
      boundedWalk_seed hseed hpos hsome
    apply readable_of_cites hfind
    apply hall [node_id] path hpath
    rw [hcites]
    exact hcited
  · intro hsealed seeds path hpath citation hcitation
    unfold traverse at hpath
    obtain ⟨hcites, hvisible⟩ := boundedWalk_path hpath
    rw [hcites] at hcitation
    obtain ⟨node, hnode, chunk_id, hmem, chunk, hfind, rfl⟩ := mem_citationsForNodes hcitation
    obtain ⟨node_id, hnode_id⟩ := hvisible node hnode
    exact ⟨chunk, latest_of_find hfind, rfl, hsealed node_id node hnode_id chunk_id hmem chunk hfind⟩

end PostgresKnowledgeStore

/-! ## Section 3: Both stores -/

/-- A principal's graph paths cite only live chunks of the tenant that it may
    read: in memory after any history and from any seeds, and in PostgreSQL,
    whatever the tables hold, exactly where every node it sees is supported by
    no other live chunks. -/
theorem graph_paths_cite (config : KnowledgeConfig) (tenant_id principal_id : RequiredText) :
    (∀ {F : Type} [Score F] {ts st}, IngestRun InMemoryKnowledgeStore.publisher
        InMemoryKnowledgeStore.empty ts st →
      ∀ (similarity : List Decimal → List Decimal → F) casefold seeds paths,
        graphPath config (st.store.reader similarity casefold) tenant_id principal_id seeds =
          .ok paths →
        ∀ path ∈ paths, ∀ citation ∈ path.citations,
          CitesReadable st.store.Latest tenant_id principal_id citation) ∧
    ∀ {F : Type} (store : PostgresKnowledgeStore) (index : PostgresKnowledgeStore.SearchIndex F),
      (∀ seeds paths,
        graphPath config (store.reader index) tenant_id principal_id seeds = .ok paths →
        ∀ path ∈ paths, ∀ citation ∈ path.citations,
          CitesReadable store.Latest tenant_id principal_id citation) ↔
        store.Sealed tenant_id principal_id := by
  constructor
  · intro F _ ts st hrun similarity casefold seeds paths h path hpath
    obtain rfl := Except.ok.inj h
    exact InMemoryKnowledgeStore.traverse_cites hrun hpath
  · intro F store index
    rw [← PostgresKnowledgeStore.traverse_cites_iff config.graph_max_nodes_pos]
    constructor
    · intro hall seeds path hpath
      exact hall seeds _ rfl path hpath
    · intro hall seeds paths h path hpath
      obtain rfl := Except.ok.inj h
      exact hall seeds path hpath

/-- Alice's paths from the log in the small collection. -/
theorem graph_paths_cite_ops :
    ∃ paths, graphPath opsConfig (opsStore.reader sameLetter id) acme alice [shifts] = .ok paths ∧
      paths.length = 2 ∧ ∀ path ∈ paths, ∀ citation ∈ path.citations,
        CitesReadable opsStore.Latest acme alice citation := by
  obtain ⟨ts, hrun⟩ := opsStore_reached
  have hlength : (graphPath opsConfig (opsStore.reader sameLetter id) acme alice [shifts]).map
      List.length = .ok 2 := by
    decide +kernel
  obtain ⟨paths, hpaths, htwo⟩ := map_ok.mp hlength
  exact ⟨paths, hpaths, htwo, (graph_paths_cite opsConfig acme alice).1 hrun sameLetter id [shifts]
    paths hpaths⟩

/-! ### A node with two supports

    The FAQ is Alice's and the log is Bob's; one node is supported by both. -/

def bobDocument : SourceDocument := { logDocument with acl_principals := {bob} }

def topicNode : GraphNode :=
  { sourceNode faqChunk faqId with
    provenance_chunk_ids := [faqId, logId]
    provenance_ne := by simp }

open PostgresKnowledgeStore in
def topicRun : Raises PostgresKnowledgeStore := do
  let (store, _) ← widePipeline.ingest publisher empty faqDocument (.finite (whole 1))
  let (store, _) ← widePipeline.ingest publisher store bobDocument (.finite (whole 2))
  publisher.upsert_nodes store [topicNode]

def noIndex : PostgresKnowledgeStore.SearchIndex ℚ where
  search_vector _ _ _ _ _ := .ok []
  search_keyword _ _ _ _ _ := .ok []

/-- The access lists that Alice's paths cite. -/
def citedAccess (store : PostgresKnowledgeStore) : Raises (List (List (Finset RequiredText))) := do
  let paths ← graphPath opsConfig (store.reader noIndex) acme alice [faq]
  pure (paths.map fun path => path.citations.map Citation.acl_principals)

theorem topicRun_cites : (do
    let store ← topicRun
    citedAccess store) = .ok [[{alice}, {bob}]] := by
  decide +kernel

open PostgresKnowledgeStore in
/-- Alice's path from the FAQ cites Bob's log. -/
theorem topic_cites_bob :
    ∃ ts store paths, IngestRun publisher empty ts ⟨store, []⟩ ∧
      graphPath opsConfig (store.reader noIndex) acme alice [faq] = .ok paths ∧
      ∃ path ∈ paths, ∃ citation ∈ path.citations, citation.acl_principals = {bob} ∧
        ¬ CitesReadable store.Latest acme alice citation := by
  have heq := topicRun_cites
  rw [bind_ok] at heq
  obtain ⟨store, hstore, hcited⟩ := heq
  unfold topicRun at hstore
  rw [bind_ok] at hstore
  obtain ⟨⟨store₁, result₁⟩, hfirst, hstore⟩ := hstore
  rw [bind_ok] at hstore
  obtain ⟨⟨store₂, result₂⟩, hsecond, hupsert⟩ := hstore
  obtain ⟨ts₁, hrun₁⟩ := IngestRun.nil.ingest hfirst
  obtain ⟨ts₂, hrun₂⟩ := hrun₁.ingest hsecond
  unfold citedAccess at hcited
  rw [bind_ok] at hcited
  obtain ⟨paths, hpaths, hcited⟩ := hcited
  have haccess := pure_ok.mp hcited
  refine ⟨_, store, paths, hrun₂.step (.upsertNodes hupsert), hpaths, ?_⟩
  -- There is one path, and its second citation is Bob's.
  obtain ⟨path, hpath, hlist⟩ : ∃ path ∈ paths,
      path.citations.map Citation.acl_principals = [{alice}, {bob}] := by
    apply List.mem_map.mp
    rw [haccess]
    exact List.mem_cons_self
  obtain ⟨citation, hcitation, hbob⟩ : ∃ citation ∈ path.citations,
      citation.acl_principals = {bob} := by
    apply List.mem_map.mp
    rw [hlist]
    exact List.mem_cons_of_mem _ List.mem_cons_self
  refine ⟨path, hpath, citation, hcitation, hbob, ?_⟩
  rintro ⟨chunk, -, rfl, -, hread⟩
  have hacl : chunk.acl_principals = {bob} := hbob
  rw [hacl] at hread
  revert hread
  decide

end CBrain.Knowledge
