import CBrain.Knowledge.Ingestion
import CBrain.Knowledge.Postgres

/-! # What the PostgreSQL store writes

    One lemma for each statement says when it is accepted and which table it
    changes; `publishRevision_ok` and `tombstone_ok` put them together.  Later
    modules reason by these and never run a transaction again.

    Rows are only ever added, but for the graph's provenance and the numbers of
    collections: `Wrote` says which. -/

namespace CBrain.Knowledge

/-! ## Section 1: Statements -/

theorem transaction_ok {α : Type} {x : Raises α} {a : α} : transaction x = .ok a ↔ x = .ok a := by
  unfold transaction
  cases x with
  | error e => simp [Except.mapError]
  | ok b => simp [Except.mapError]

/-- The row of a revision, with the time as the column holds it. -/
def DocumentRevision.at (revision : DocumentRevision) (time : Decimal) : DocumentRevision :=
  { revision with created_at := time }

/-- The row of a chunk, with the time as the column holds it. -/
def KnowledgeChunk.at (chunk : KnowledgeChunk) (time : Decimal) : KnowledgeChunk :=
  { chunk with created_at := time }

@[simp] theorem KnowledgeChunk.at_chunk_id (chunk : KnowledgeChunk) (time : Decimal) :
    (chunk.at time).chunk_id = chunk.chunk_id := rfl

@[simp] theorem KnowledgeChunk.at_key (chunk : KnowledgeChunk) (time : Decimal) :
    (chunk.at time).key = chunk.key := rfl

@[simp] theorem KnowledgeChunk.at_revisionKey (chunk : KnowledgeChunk) (time : Decimal) :
    (chunk.at time).revisionKey = chunk.revisionKey := rfl

@[simp] theorem KnowledgeChunk.at_chunk_index (chunk : KnowledgeChunk) (time : Decimal) :
    (chunk.at time).chunk_index = chunk.chunk_index := rfl

@[simp] theorem DocumentRevision.at_key (revision : DocumentRevision) (time : Decimal) :
    (revision.at time).key = revision.key := rfl

@[simp] theorem DocumentRevision.at_rowKey (revision : DocumentRevision) (time : Decimal) :
    (revision.at time).rowKey = revision.rowKey := rfl

namespace PostgresKnowledgeStore

variable {store store' : PostgresKnowledgeStore}

theorem insertDocument_ok {revision : DocumentRevision} :
    store.insertDocument revision = .ok store' ↔
      ∃ time, timestamp revision.created_at = .ok time ∧ revision.acl_principals ≠ ∅ ∧
        store.documents.get? revision.rowKey = none ∧
        (store.collections.get? revision.key.collection).isSome = true ∧
        { store with documents := store.documents.put (revision.at time) } = store' := by
  unfold insertDocument
  rw [bind_ok]
  simp only [require_bind_ok, pure_ok]
  rfl

theorem insertChunk_ok {chunk : KnowledgeChunk} :
    store.insertChunk chunk = .ok store' ↔
      ∃ time, timestamp chunk.created_at = .ok time ∧ chunk.acl_principals ≠ ∅ ∧
        store.chunks.get? chunk.chunk_id = none ∧
        (∀ row ∈ store.chunks.values,
          ¬ (row.revisionKey = chunk.revisionKey ∧ row.chunk_index = chunk.chunk_index)) ∧
        (store.documents.get? chunk.revisionKey).isSome = true ∧
        { store with chunks := store.chunks.put (chunk.at time) } = store' := by
  unfold insertChunk
  rw [bind_ok]
  simp only [require_bind_ok, pure_ok]
  rfl

theorem insertEmbedding_ok {collection : CollectionKey} {profile : EmbeddingProfile}
    {row : String × List Decimal} :
    store.insertEmbedding collection profile row = .ok store' ↔
      store.embeddings.get? row.1 = none ∧ (store.chunks.get? row.1).isSome = true ∧
        { store with
          embeddings := store.embeddings.set row.1 ⟨collection, row.2, profile.profile_id⟩ } =
            store' := by
  unfold insertEmbedding
  rw [require_bind_ok, require_bind_ok, pure_ok]

theorem insertJob_ok {key : SourceKey} {source_revision : Nat} :
    store.insertJob key source_revision = .ok store' ↔
      store.jobs.get? (jobId key source_revision) = none ∧
        { store with jobs := store.jobs.set (jobId key source_revision) ⟨key⟩ } = store' := by
  unfold insertJob
  rw [require_bind_ok, pure_ok]

theorem bumpRevision_ok {collection : CollectionKey} {n : Nat} :
    store.bumpRevision collection = .ok (store', n) ↔
      ∃ row, store.collections.get? collection = some row ∧ n = row.collection_revision + 1 ∧
        (collection, n) ∉ store.revisions ∧
        { store with
          collections := store.collections.set collection { row with collection_revision := n }
          revisions := insert (collection, n) store.revisions } = store' := by
  unfold bumpRevision
  cases hrow : store.collections.get? collection with
  | none => simp
  | some row =>
    simp only [require_bind_ok, pure_ok, Prod.mk.injEq, Option.some.injEq, exists_eq_left']
    constructor
    · rintro ⟨hfresh, rfl, rfl⟩
      exact ⟨rfl, hfresh, rfl⟩
    · rintro ⟨rfl, hfresh, rfl⟩
      exact ⟨hfresh, rfl, rfl⟩

/-- A node is accepted or not whatever the tables hold. -/
theorem insertNode_ok {node : GraphNode} (h : store.insertNode node = .ok store') :
    ∃ row, row.node_id = node.node_id ∧
      { store with nodes := store.nodes.put row } = store' := by
  unfold insertNode at h
  rw [bind_ok] at h
  obtain ⟨valid_from, -, h⟩ := h
  rw [bind_ok] at h
  obtain ⟨valid_to, -, h⟩ := h
  cases hold : store.nodes.get? node.node_id with
  | none =>
    simp only [hold] at h
    refine ⟨_, ?_, pure_ok.mp h⟩
    rfl
  | some old =>
    simp only [hold] at h
    refine ⟨_, ?_, pure_ok.mp h⟩
    have hid : old.node_id = node.node_id := Registry.key_of_get? hold
    exact hid

theorem insertEdge_ok {edge : GraphEdge} (h : store.insertEdge edge = .ok store') :
    ∃ row, row.edge_id = edge.edge_id ∧
      { store with edges := store.edges.put row } = store' := by
  unfold insertEdge at h
  rw [bind_ok] at h
  obtain ⟨valid_from, -, h⟩ := h
  rw [bind_ok] at h
  obtain ⟨valid_to, -, h⟩ := h
  cases hold : store.edges.get? edge.edge_id with
  | none =>
    simp only [hold] at h
    rw [require_bind_ok] at h
    refine ⟨_, ?_, pure_ok.mp h.2⟩
    rfl
  | some old =>
    simp only [hold] at h
    refine ⟨_, ?_, pure_ok.mp h⟩
    have hid : old.edge_id = edge.edge_id := Registry.key_of_get? hold
    exact hid

/-! ## Section 2: Statements one after the other -/

/-- **Batch rule**: what every statement keeps, the batch keeps. -/
theorem insertAll_rule {A : Type}
    {insert : PostgresKnowledgeStore → A → Raises PostgresKnowledgeStore} {xs : List A}
    (P : PostgresKnowledgeStore → Prop) (hstart : P store)
    (hstep : ∀ {s s' : PostgresKnowledgeStore} {x : A}, x ∈ xs → P s → insert s x = .ok s' → P s')
    (h : insertAll insert xs store = .ok store') : P store' := by
  induction xs generalizing store with
  | nil =>
    obtain rfl := Except.ok.inj h
    exact hstart
  | cons x xs ih =>
    rw [insertAll, bind_ok] at h
    obtain ⟨next, hinsert, h⟩ := h
    apply ih (hstep List.mem_cons_self hstart hinsert) _ h
    intro s s' y hy
    exact hstep (List.mem_cons_of_mem x hy)

/-- The chunks after some new ones: the old and the new, under ids that were
    free. -/
structure ChunksAdded (before after : Registry String KnowledgeChunk KnowledgeChunk.chunk_id)
    (chunks : List KnowledgeChunk) : Prop where
  fresh : ∀ chunk ∈ chunks, before.get? chunk.chunk_id = none
  kept : ∀ {chunk_id row}, before.get? chunk_id = some row → after.get? chunk_id = some row
  added : ∀ chunk ∈ chunks, ∃ time, after.get? chunk.chunk_id = some (chunk.at time)
  only : ∀ {chunk_id row}, after.get? chunk_id = some row → before.get? chunk_id = some row ∨
    ∃ chunk ∈ chunks, ∃ time, chunk.chunk_id = chunk_id ∧ row = chunk.at time

theorem insertChunks_ok {chunks : List KnowledgeChunk}
    (h : insertAll insertChunk chunks store = .ok store') :
    ∃ rows, { store with chunks := rows } = store' ∧ ChunksAdded store.chunks rows chunks := by
  induction chunks generalizing store with
  | nil =>
    obtain rfl := Except.ok.inj h
    refine ⟨store.chunks, rfl, ?_⟩
    constructor
    · intro chunk hmem
      cases hmem
    · intro chunk_id row hrow
      exact hrow
    · intro chunk hmem
      cases hmem
    · intro chunk_id row hrow
      exact Or.inl hrow
  | cons chunk chunks ih =>
    rw [insertAll, bind_ok] at h
    obtain ⟨next, hinsert, h⟩ := h
    obtain ⟨time, -, -, hfree, -, -, rfl⟩ := insertChunk_ok.mp hinsert
    obtain ⟨rows, rfl, hadded⟩ := ih h
    have hput := Registry.get?_put store.chunks (chunk.at time)
    have hself : (store.chunks.put (chunk.at time)).get? chunk.chunk_id = some (chunk.at time) := by
      rw [hput]
      exact if_pos rfl
    have hother : ∀ {chunk_id}, chunk_id ≠ chunk.chunk_id →
        (store.chunks.put (chunk.at time)).get? chunk_id = store.chunks.get? chunk_id := by
      intro chunk_id hne
      rw [hput]
      exact if_neg hne
    refine ⟨rows, rfl, ?_⟩
    constructor
    · intro c hc
      rcases List.mem_cons.mp hc with rfl | hc
      · exact hfree
      · have hnone := hadded.fresh c hc
        by_cases hid : c.chunk_id = chunk.chunk_id
        · rw [hid]
          exact hfree
        · rw [← hother hid]
          exact hnone
    · intro chunk_id row hrow
      have hne : chunk_id ≠ chunk.chunk_id := by
        intro heq
        rw [heq, hfree] at hrow
        cases hrow
      apply hadded.kept
      rw [hother hne]
      exact hrow
    · intro c hc
      rcases List.mem_cons.mp hc with rfl | hc
      · exact ⟨time, hadded.kept hself⟩
      · exact hadded.added c hc
    · intro chunk_id row hrow
      rcases hadded.only hrow with hbefore | ⟨c, hc, time', hid, heq⟩
      · by_cases hid : chunk_id = chunk.chunk_id
        · rw [hid, hself] at hbefore
          exact Or.inr ⟨chunk, List.mem_cons_self, time, hid.symm, (Option.some.inj hbefore).symm⟩
        · rw [hother hid] at hbefore
          exact Or.inl hbefore
      · exact Or.inr ⟨c, List.mem_cons_of_mem chunk hc, time', hid, heq⟩

theorem insertEmbeddings_ok {collection : CollectionKey} {profile : EmbeddingProfile}
    {rows : List (String × List Decimal)}
    (h : insertAll (fun store row => store.insertEmbedding collection profile row) rows store =
      .ok store') :
    ∃ embeddings, { store with embeddings := embeddings } = store' ∧
      ∀ chunk_id, chunk_id ∉ rows.map Prod.fst →
        embeddings.get? chunk_id = store.embeddings.get? chunk_id := by
  refine insertAll_rule (fun s => ∃ embeddings, { store with embeddings := embeddings } = s ∧
    ∀ chunk_id, chunk_id ∉ rows.map Prod.fst →
      embeddings.get? chunk_id = store.embeddings.get? chunk_id) ?_ ?_ h
  · exact ⟨store.embeddings, rfl, fun _ _ => rfl⟩
  · rintro s s' row hrow ⟨embeddings, rfl, hsame⟩ hinsert
    obtain ⟨-, -, rfl⟩ := insertEmbedding_ok.mp hinsert
    refine ⟨_, rfl, ?_⟩
    intro chunk_id hnot
    have hne : chunk_id ≠ row.1 := fun heq => hnot (heq ▸ List.mem_map_of_mem hrow)
    rw [Table.get?_set_ne _ _ hne]
    exact hsame chunk_id hnot

/-- Putting a value takes none away. -/
theorem isSome_put {K V : Type} [DecidableEq K] {key : V → K} {r : Registry K V key} (v : V)
    {k : K} (h : (r.get? k).isSome = true) : ((r.put v).get? k).isSome = true := by
  rw [Registry.get?_put]
  by_cases hk : k = key v
  · rw [if_pos hk]
    rfl
  · rw [if_neg hk]
    exact h

theorem insertNodes_ok {nodes : List GraphNode} (h : insertAll insertNode nodes store = .ok store') :
    ∃ rows, { store with nodes := rows } = store' ∧
      ∀ k, (store.nodes.get? k).isSome = true → (rows.get? k).isSome = true := by
  refine insertAll_rule (fun s => ∃ rows, { store with nodes := rows } = s ∧
    ∀ k, (store.nodes.get? k).isSome = true → (rows.get? k).isSome = true)
    ⟨store.nodes, rfl, fun _ hk => hk⟩ ?_ h
  rintro s s' node hnode ⟨rows, rfl, hrows⟩ hinsert
  obtain ⟨row, -, rfl⟩ := insertNode_ok hinsert
  exact ⟨_, rfl, fun k hk => isSome_put row (hrows k hk)⟩

theorem insertEdges_ok {edges : List GraphEdge} (h : insertAll insertEdge edges store = .ok store') :
    ∃ rows, { store with edges := rows } = store' ∧
      ∀ k, (store.edges.get? k).isSome = true → (rows.get? k).isSome = true := by
  refine insertAll_rule (fun s => ∃ rows, { store with edges := rows } = s ∧
    ∀ k, (store.edges.get? k).isSome = true → (rows.get? k).isSome = true)
    ⟨store.edges, rfl, fun _ hk => hk⟩ ?_ h
  rintro s s' edge hedge ⟨rows, rfl, hrows⟩ hinsert
  obtain ⟨row, -, rfl⟩ := insertEdge_ok hinsert
  exact ⟨_, rfl, fun k hk => isSome_put row (hrows k hk)⟩

/-! ## Section 3: Publications -/

/-- What is the same after a publication of a source that already holds the
    content: at most the collection's row is new. -/
theorem withCollection_eq (collection : CollectionKey) (profile : EmbeddingProfile) :
    ∃ collections, { store with collections := collections } =
      store.withCollection collection profile ∧
        ∀ other, other ≠ collection →
          collections.get? other = store.collections.get? other := by
  unfold withCollection
  cases store.collections.get? collection with
  | none =>
    refine ⟨_, rfl, ?_⟩
    intro other hne
    exact Table.get?_set_ne _ _ hne
  | some row => exact ⟨store.collections, rfl, fun _ _ => rfl⟩

/-- A new collection is at revision 0, like one without a row. -/
theorem collectionRevision_withCollection (store : PostgresKnowledgeStore)
    (collection : CollectionKey) (profile : EmbeddingProfile) (other : CollectionKey) :
    (store.withCollection collection profile).collectionRevision other =
      store.collectionRevision other := by
  unfold withCollection
  cases hrow : store.collections.get? collection with
  | none =>
    unfold collectionRevision
    simp only [Table.get?_set]
    by_cases heq : other = collection
    · rw [if_pos heq, heq, hrow]
    · rw [if_neg heq]
  | some row => rfl

/-- What a publication that is written does to the tables. -/
structure Wrote (store store' : PostgresKnowledgeStore) (p : Publication) : Prop where
  acl_ne : p.revision.acl_principals ≠ ∅
  document_fresh : store.documents.get? p.revision.rowKey = none
  documents : ∃ time, store'.documents = store.documents.put (p.revision.at time)
  chunks : ChunksAdded store.chunks store'.chunks p.chunks
  embeddings : ∀ chunk_id, chunk_id ∉ p.chunk_ids →
    store'.embeddings.get? chunk_id = store.embeddings.get? chunk_id
  collection_revision : store'.collectionRevision p.key.collection =
    store.collectionRevision p.key.collection + 1
  collections : ∀ other, other ≠ p.key.collection →
    store'.collections.get? other = store.collections.get? other
  job_fresh : store.jobs.get? (jobId p.key p.revision.source_revision) = none
  jobs : store'.jobs = store.jobs.set (jobId p.key p.revision.source_revision) ⟨p.key⟩
  revisions : ∀ other n, other ≠ p.key.collection →
    ((other, n) ∈ store'.revisions ↔ (other, n) ∈ store.revisions)
  nodes : ∀ k, (store.nodes.get? k).isSome = true → (store'.nodes.get? k).isSome = true
  edges : ∀ k, (store.edges.get? k).isSome = true → (store'.edges.get? k).isSome = true

theorem writePublication_ok {p : Publication} {n : Nat}
    (h : store.writePublication p = .ok (store', n)) :
    Wrote store store' p ∧ n = store'.collectionRevision p.key.collection := by
  unfold writePublication at h
  rw [bind_ok] at h
  obtain ⟨s₁, hdocument, h⟩ := h
  rw [bind_ok] at h
  obtain ⟨s₂, hchunks, h⟩ := h
  rw [bind_ok] at h
  obtain ⟨s₃, hembeddings, h⟩ := h
  rw [bind_ok] at h
  obtain ⟨s₄, hnodes, h⟩ := h
  rw [bind_ok] at h
  obtain ⟨s₅, hedges, h⟩ := h
  rw [bind_ok] at h
  obtain ⟨⟨s₆, m⟩, hbump, h⟩ := h
  rw [bind_ok] at h
  obtain ⟨s₇, hjob, h⟩ := h
  obtain ⟨rfl, rfl⟩ := Prod.mk.inj (pure_ok.mp h)
  -- Each statement changes its own table.
  obtain ⟨time, -, hacl, hfresh, -, rfl⟩ := insertDocument_ok.mp hdocument
  obtain ⟨chunks, rfl, hadded⟩ := insertChunks_ok hchunks
  obtain ⟨embeddings, rfl, hembedded⟩ := insertEmbeddings_ok hembeddings
  obtain ⟨nodes, rfl, hnodesKept⟩ := insertNodes_ok hnodes
  obtain ⟨edges, rfl, hedgesKept⟩ := insertEdges_ok hedges
  obtain ⟨row, hrow, rfl, -, rfl⟩ := bumpRevision_ok.mp hbump
  obtain ⟨hjobFresh, rfl⟩ := insertJob_ok.mp hjob
  have hbefore : store.collectionRevision p.key.collection = row.collection_revision := by
    unfold collectionRevision
    rw [hrow]
  constructor
  · constructor
    · exact hacl
    · exact hfresh
    · exact ⟨time, rfl⟩
    · exact hadded
    · intro chunk_id hnot
      apply hembedded
      intro hmem
      obtain ⟨⟨id, vector⟩, hpair, rfl⟩ := List.mem_map.mp hmem
      apply hnot
      apply p.embedded
      rw [Table.mem_rows.mp hpair]
      rfl
    · rw [hbefore]
      unfold collectionRevision
      simp only [Table.get?_set_self]
    · intro other hne
      exact Table.get?_set_ne _ _ hne
    · exact hjobFresh
    · rfl
    · intro other n hne
      show (other, n) ∈ insert _ store.revisions ↔ _
      rw [Finset.mem_insert]
      simp [hne]
    · exact hnodesKept
    · exact hedgesKept
  · unfold collectionRevision
    simp only [Table.get?_set_self]

/-- How a publication is accepted: the source already holds the content and its
    rows stay, or the publication is written. -/
theorem publishRevision_ok {p : Publication} {n : Nat}
    (h : store.publishRevision p = .ok (store', n)) :
    (store.holdsContent p.key p.revision.content_digest = true ∧
      store' = store.withCollection p.key.collection p.profile) ∨
    (store.holdsContent p.key p.revision.content_digest = false ∧
      Wrote (store.withCollection p.key.collection p.profile) store' p) := by
  unfold publishRevision at h
  rw [require_bind_ok] at h
  obtain ⟨-, h⟩ := h
  rw [require_bind_ok] at h
  obtain ⟨-, h⟩ := h
  rw [transaction_ok] at h
  unfold publishInTransaction at h
  obtain ⟨collections, heq, -⟩ := store.withCollection_eq p.key.collection p.profile
  have hholds : (store.withCollection p.key.collection p.profile).holdsContent p.key
      p.revision.content_digest = store.holdsContent p.key p.revision.content_digest := by
    rw [← heq]
    rfl
  simp only at h
  cases hrow : (store.withCollection p.key.collection p.profile).collections.get?
      p.key.collection with
  | none =>
    simp only [hrow] at h
    cases h
  | some row =>
    simp only [hrow] at h
    rw [require_bind_ok, hholds] at h
    obtain ⟨-, h⟩ := h
    by_cases hcontent : store.holdsContent p.key p.revision.content_digest = true
    · rw [if_pos hcontent] at h
      obtain ⟨rfl, -⟩ := Prod.mk.inj (pure_ok.mp h)
      exact Or.inl ⟨hcontent, rfl⟩
    · rw [if_neg hcontent] at h
      exact Or.inr ⟨by simpa using hcontent, (writePublication_ok h).1⟩

/-- What a tombstone writes. -/
theorem tombstone_ok {key : SourceKey} {created_at : JsonFloat} {n : Nat}
    (h : store.tombstone key created_at = .ok (store', n)) :
    ∃ current time, store.getRevision key = some current ∧
      store.documents.get? (tombstoneOf current time).rowKey = none ∧
      (∃ stored, store'.documents = store.documents.put ((tombstoneOf current time).at stored)) ∧
      store'.chunks = store.chunks ∧ store'.embeddings = store.embeddings ∧
      store'.nodes = store.nodes ∧ store'.edges = store.edges ∧
      store'.collectionRevision key.collection = store.collectionRevision key.collection + 1 ∧
      ∀ other, other ≠ key.collection →
        store'.collections.get? other = store.collections.get? other := by
  unfold tombstone at h
  rw [transaction_ok, require_bind_ok] at h
  obtain ⟨-, h⟩ := h
  cases hcurrent : store.getRevision key with
  | none =>
    simp only [hcurrent] at h
    cases h
  | some current =>
    simp only [hcurrent] at h
    rw [bind_ok] at h
    obtain ⟨time, -, h⟩ := h
    rw [bind_ok] at h
    obtain ⟨s₁, hdocument, hbump⟩ := h
    obtain ⟨stored, -, -, hfresh, -, rfl⟩ := insertDocument_ok.mp hdocument
    obtain ⟨row, hrow, rfl, -, rfl⟩ := bumpRevision_ok.mp hbump
    refine ⟨current, time, rfl, hfresh, ⟨stored, rfl⟩, rfl, rfl, rfl, rfl, ?_, ?_⟩
    · have hbefore : store.collectionRevision key.collection = row.collection_revision := by
        unfold collectionRevision
        rw [hrow]
      rw [hbefore]
      unfold collectionRevision
      simp only [Table.get?_set_self]
    · intro other hne
      exact Table.get?_set_ne _ _ hne

theorem upsertNodes_ok {nodes : List GraphNode} (h : store.upsertNodes nodes = .ok store') :
    ∃ rows, { store with nodes := rows } = store' := by
  obtain ⟨rows, heq, -⟩ := insertNodes_ok (transaction_ok.mp h)
  exact ⟨rows, heq⟩

theorem upsertEdges_ok {edges : List GraphEdge} (h : store.upsertEdges edges = .ok store') :
    ∃ rows, { store with edges := rows } = store' := by
  obtain ⟨rows, heq, -⟩ := insertEdges_ok (transaction_ok.mp h)
  exact ⟨rows, heq⟩

end PostgresKnowledgeStore

end CBrain.Knowledge
