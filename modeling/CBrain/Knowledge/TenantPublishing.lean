import CBrain.Knowledge.MemoryHistory
import CBrain.Knowledge.PostgresHistory

/-! # Publications of different tenants

    What an accepted publication of one tenant means for the next one of
    another tenant, on the same tables.

    * `Apart`  : the tables look the same to the other tenant's source.
    * `Above`  : and to the publication itself, so whatever statement was
                 accepted is still accepted.
    * `Clash`  : the keys that two publications share. -/

namespace CBrain.Knowledge

namespace PostgresKnowledgeStore

variable {store store' : PostgresKnowledgeStore}

/-! ## Section 1: A statement on larger tables -/

/-- The source and its collection have the same rows in both. -/
structure Apart (source : SourceKey) (store store' : PostgresKnowledgeStore) : Prop where
  collection : store'.collections.get? source.collection = store.collections.get? source.collection
  documents : ∀ n, store'.documents.get? ⟨source, n⟩ = store.documents.get? ⟨source, n⟩
  parts : ∀ row ∈ store'.chunks.values, row.key = source → row ∈ store.chunks.values
  nodes : ∀ k, (store.nodes.get? k).isSome = true → (store'.nodes.get? k).isSome = true
  edges : ∀ k, (store.edges.get? k).isSome = true → (store'.edges.get? k).isSome = true
  revisions : ∀ n, (source.collection, n) ∈ store'.revisions → (source.collection, n) ∈ store.revisions

/-- So have the keys that a publication takes. -/
structure Above (p : Publication) (store store' : PostgresKnowledgeStore) : Prop
    extends Apart p.key store store' where
  chunks : ∀ chunk_id ∈ p.chunk_ids, store'.chunks.get? chunk_id = store.chunks.get? chunk_id
  embeddings : ∀ chunk_id ∈ p.chunk_ids,
    store'.embeddings.get? chunk_id = store.embeddings.get? chunk_id
  job : store'.jobs.get? (jobId p.key p.revision.source_revision) =
    store.jobs.get? (jobId p.key p.revision.source_revision)

/-- A statement that is accepted on the smaller tables is accepted on the larger
    ones, and the tables stay so. -/
def Simulated (p : Publication)
    (statement : PostgresKnowledgeStore → Raises PostgresKnowledgeStore) : Prop :=
  ∀ {store store' after : PostgresKnowledgeStore}, Above p store store' →
    statement store = .ok after → ∃ after', statement store' = .ok after' ∧ Above p after after'

variable {p : Publication}

theorem simulated_insertDocument : Simulated p fun store => store.insertDocument p.revision := by
  intro store store' after habove h
  obtain ⟨time, htime, hacl, hfresh, hcollection, rfl⟩ := insertDocument_ok.mp h
  have hkey := key_of_publication p
  have hrow : p.revision.rowKey = ⟨p.key, p.revision.source_revision⟩ := by
    rw [← hkey]
    rfl
  refine ⟨_, insertDocument_ok.mpr ⟨time, htime, hacl, ?_, ?_, rfl⟩, ?_⟩
  · rw [hrow] at hfresh ⊢
    rw [habove.documents]
    exact hfresh
  · rw [hkey] at hcollection ⊢
    rw [habove.collection]
    exact hcollection
  · refine ⟨⟨habove.collection, ?_, habove.parts, habove.nodes, habove.edges, habove.revisions⟩,
      habove.chunks, habove.embeddings, habove.job⟩
    intro n
    simp only [Registry.get?_put]
    rw [habove.documents]

theorem simulated_insertChunk {chunk : KnowledgeChunk} (hchunk : chunk ∈ p.chunks) :
    Simulated p fun store => store.insertChunk chunk := by
  intro store store' after habove h
  obtain ⟨time, htime, hacl, hfresh, hunique, hdocument, rfl⟩ := insertChunk_ok.mp h
  have hkey : chunk.key = p.key := Publication.key_of_mem hchunk
  have hid : chunk.chunk_id ∈ p.chunk_ids := List.mem_map_of_mem hchunk
  have hrow : chunk.revisionKey = ⟨p.key, chunk.source_revision⟩ := by
    rw [← hkey]
    rfl
  refine ⟨_, insertChunk_ok.mpr ⟨time, htime, hacl, ?_, ?_, ?_, rfl⟩, ?_⟩
  · rw [habove.chunks _ hid]
    exact hfresh
  · rintro row hmem ⟨hrevision, hindex⟩
    -- A row of the same revision is one of the smaller tables.
    have hsource : row.key = p.key := by
      rw [hrow] at hrevision
      exact congrArg RevisionKey.source hrevision
    exact hunique row (habove.parts row hmem hsource) ⟨hrevision, hindex⟩
  · rw [hrow] at hdocument ⊢
    rw [habove.documents]
    exact hdocument
  · refine ⟨⟨habove.collection, habove.documents, ?_, habove.nodes, habove.edges,
      habove.revisions⟩, ?_, habove.embeddings, habove.job⟩
    · intro row hmem hsource
      rw [Registry.mem_values, Registry.get?_put] at hmem ⊢
      by_cases hsame : row.chunk_id = (chunk.at time).chunk_id
      · rw [if_pos hsame] at hmem ⊢
        exact hmem
      · rw [if_neg hsame] at hmem ⊢
        exact Registry.mem_values.mp (habove.parts row (Registry.mem_values.mpr hmem) hsource)
    · intro chunk_id hmem
      simp only [Registry.get?_put]
      rw [habove.chunks chunk_id hmem]

theorem simulated_insertEmbedding {collection : CollectionKey} {profile : EmbeddingProfile}
    {row : String × List Decimal} (hrow : row.1 ∈ p.chunk_ids) :
    Simulated p fun store => store.insertEmbedding collection profile row := by
  intro store store' after habove h
  obtain ⟨hfresh, hchunk, rfl⟩ := insertEmbedding_ok.mp h
  refine ⟨_, insertEmbedding_ok.mpr ⟨?_, ?_, rfl⟩, ?_⟩
  · rw [habove.embeddings _ hrow]
    exact hfresh
  · rw [habove.chunks _ hrow]
    exact hchunk
  · refine ⟨⟨habove.collection, habove.documents, habove.parts, habove.nodes, habove.edges,
      habove.revisions⟩, habove.chunks, ?_, habove.job⟩
    intro chunk_id hmem
    simp only [Table.get?_set]
    rw [habove.embeddings chunk_id hmem]

/-- Putting a value on both sides keeps what is there. -/
theorem isSome_put_put {K V : Type} [DecidableEq K] {key : V → K} {r r' : Registry K V key} {v v' : V}
    (hkey : key v = key v')
    (h : ∀ k, (r.get? k).isSome = true → (r'.get? k).isSome = true) (k : K)
    (hsome : ((r.put v).get? k).isSome = true) : ((r'.put v').get? k).isSome = true := by
  rw [Registry.get?_put] at hsome ⊢
  by_cases hk : k = key v'
  · rw [if_pos hk]
    rfl
  · rw [if_neg (hkey ▸ hk)] at hsome
    rw [if_neg hk]
    exact h k hsome

theorem simulated_insertNode (node : GraphNode) :
    Simulated p fun store => store.insertNode node := by
  intro store store' after habove h
  obtain ⟨row, hrow, rfl⟩ := insertNode_ok h
  have haccepted : ∃ after', store'.insertNode node = .ok after' := by
    unfold insertNode at h ⊢
    rw [bind_ok] at h
    obtain ⟨valid_from, hfrom, h⟩ := h
    rw [bind_ok] at h
    obtain ⟨valid_to, hto, -⟩ := h
    rw [hfrom, hto]
    cases store'.nodes.get? node.node_id with
    | none => exact ⟨_, rfl⟩
    | some old => exact ⟨_, rfl⟩
  obtain ⟨after', hafter⟩ := haccepted
  obtain ⟨row', hrow', rfl⟩ := insertNode_ok hafter
  refine ⟨_, hafter, ⟨habove.collection, habove.documents, habove.parts, ?_, habove.edges,
    habove.revisions⟩, habove.chunks, habove.embeddings, habove.job⟩
  exact isSome_put_put (hrow.trans hrow'.symm) habove.nodes

theorem simulated_insertEdge (edge : GraphEdge) :
    Simulated p fun store => store.insertEdge edge := by
  intro store store' after habove h
  obtain ⟨row, hrow, rfl⟩ := insertEdge_ok h
  have haccepted : ∃ after', store'.insertEdge edge = .ok after' := by
    unfold insertEdge at h ⊢
    rw [bind_ok] at h
    obtain ⟨valid_from, hfrom, h⟩ := h
    rw [bind_ok] at h
    obtain ⟨valid_to, hto, h⟩ := h
    rw [hfrom, hto]
    cases hnew : store'.edges.get? edge.edge_id with
    | some old => exact ⟨_, rfl⟩
    | none =>
      -- The edge is new on the smaller tables too, so its nodes are there.
      have hold : store.edges.get? edge.edge_id = none := by
        cases hedge : store.edges.get? edge.edge_id with
        | none => rfl
        | some old =>
          have hsome := habove.edges edge.edge_id (by rw [hedge]; rfl)
          rw [hnew] at hsome
          cases hsome
      simp only [hold] at h
      rw [require_bind_ok] at h
      have hnodes : (store'.nodes.get? edge.source_node_id).isSome = true ∧
          (store'.nodes.get? edge.target_node_id).isSome = true :=
        ⟨habove.nodes _ h.1.1, habove.nodes _ h.1.2⟩
      exact ⟨_, require_bind_pos hnodes⟩
  obtain ⟨after', hafter⟩ := haccepted
  obtain ⟨row', hrow', rfl⟩ := insertEdge_ok hafter
  refine ⟨_, hafter, ⟨habove.collection, habove.documents, habove.parts, habove.nodes, ?_,
    habove.revisions⟩, habove.chunks, habove.embeddings, habove.job⟩
  exact isSome_put_put (hrow.trans hrow'.symm) habove.edges

theorem simulated_insertAll {A : Type}
    {insert : PostgresKnowledgeStore → A → Raises PostgresKnowledgeStore} {xs : List A}
    (h : ∀ x ∈ xs, Simulated p fun store => insert store x) :
    Simulated p (insertAll insert xs) := by
  induction xs with
  | nil =>
    intro store store' after habove hok
    obtain rfl := Except.ok.inj hok
    exact ⟨store', rfl, habove⟩
  | cons x xs ih =>
    intro store store' after habove hok
    rw [insertAll, bind_ok] at hok
    obtain ⟨next, hinsert, hrest⟩ := hok
    obtain ⟨next', hinsert', hnext⟩ := h x List.mem_cons_self habove hinsert
    obtain ⟨after', hrest', hafter⟩ := ih (fun y hy => h y (List.mem_cons_of_mem x hy)) hnext hrest
    refine ⟨after', ?_, hafter⟩
    rw [insertAll, bind_ok]
    exact ⟨next', hinsert', hrest'⟩

theorem above_bumpRevision {after : PostgresKnowledgeStore} {n : Nat}
    (habove : Above p store store')
    (h : store.bumpRevision p.key.collection = .ok (after, n)) :
    ∃ after', store'.bumpRevision p.key.collection = .ok (after', n) ∧ Above p after after' := by
  obtain ⟨row, hrow, hn, hfresh, rfl⟩ := bumpRevision_ok.mp h
  have hbump := bumpRevision_ok.mpr ⟨row, habove.collection.trans hrow, hn,
    fun hmem => hfresh (habove.revisions n hmem), rfl⟩
  refine ⟨_, hbump, ⟨?_, habove.documents, habove.parts, habove.nodes, habove.edges, ?_⟩,
    habove.chunks, habove.embeddings, habove.job⟩
  · simp only [Table.get?_set_self]
  · intro m hmem
    rcases Finset.mem_insert.mp hmem with heq | hmem
    · exact Finset.mem_insert.mpr (Or.inl heq)
    · exact Finset.mem_insert.mpr (Or.inr (habove.revisions m hmem))

theorem simulated_insertJob :
    Simulated p fun store => store.insertJob p.key p.revision.source_revision := by
  intro store store' after habove h
  obtain ⟨hfresh, rfl⟩ := insertJob_ok.mp h
  refine ⟨_, insertJob_ok.mpr ⟨habove.job.trans hfresh, rfl⟩, ⟨habove.collection,
    habove.documents, habove.parts, habove.nodes, habove.edges, habove.revisions⟩,
    habove.chunks, habove.embeddings, ?_⟩
  simp only [Table.get?_set_self]

/-! ## Section 2: A publication on larger tables -/

theorem Apart.getRevision {source : SourceKey} (h : Apart source store store') :
    store'.getRevision source = store.getRevision source := by
  cases hlatest : store.getRevision source with
  | none =>
    rw [getRevision_eq_none] at hlatest ⊢
    intro n
    rw [h.documents]
    exact hlatest n
  | some revision =>
    rw [getRevision_eq_some] at hlatest ⊢
    simp only [h.documents]
    exact hlatest

theorem Apart.holdsContent {source : SourceKey} (h : Apart source store store')
    (content_digest : String) :
    store'.holdsContent source content_digest = store.holdsContent source content_digest := by
  unfold PostgresKnowledgeStore.holdsContent
  rw [h.getRevision]

theorem Apart.withCollection {source : SourceKey} (h : Apart source store store')
    (profile : EmbeddingProfile) :
    Apart source (store.withCollection source.collection profile)
      (store'.withCollection source.collection profile) := by
  unfold PostgresKnowledgeStore.withCollection
  rw [h.collection]
  cases hrow : store.collections.get? source.collection with
  | none =>
    refine ⟨?_, h.documents, h.parts, h.nodes, h.edges, h.revisions⟩
    simp only [Table.get?_set_self]
  | some row => exact h

theorem Above.withCollection (h : Above p store store') (profile : EmbeddingProfile) :
    Above p (store.withCollection p.key.collection profile)
      (store'.withCollection p.key.collection profile) := by
  have hapart := h.toApart.withCollection profile
  obtain ⟨collections, heq, -⟩ := store.withCollection_eq p.key.collection profile
  obtain ⟨collections', heq', -⟩ := store'.withCollection_eq p.key.collection profile
  rw [← heq, ← heq'] at hapart ⊢
  exact ⟨hapart, h.chunks, h.embeddings, h.job⟩

theorem above_writePublication {after : PostgresKnowledgeStore} {n : Nat}
    (habove : Above p store store') (hwrite : store.writePublication p = .ok (after, n)) :
    ∃ r, store'.writePublication p = .ok r := by
  unfold writePublication at hwrite
  rw [bind_ok] at hwrite
  obtain ⟨s₁, hdocument, hwrite⟩ := hwrite
  rw [bind_ok] at hwrite
  obtain ⟨s₂, hchunks, hwrite⟩ := hwrite
  rw [bind_ok] at hwrite
  obtain ⟨s₃, hembeddings, hwrite⟩ := hwrite
  rw [bind_ok] at hwrite
  obtain ⟨s₄, hnodes, hwrite⟩ := hwrite
  rw [bind_ok] at hwrite
  obtain ⟨s₅, hedges, hwrite⟩ := hwrite
  rw [bind_ok] at hwrite
  obtain ⟨⟨s₆, m⟩, hbump, hwrite⟩ := hwrite
  rw [bind_ok] at hwrite
  obtain ⟨s₇, hjob, -⟩ := hwrite
  -- Statement by statement on the larger tables.
  have hrows : ∀ row ∈ p.embeddings.rows, row.1 ∈ p.chunk_ids := by
    intro row hrow
    apply p.embedded
    rw [Table.mem_rows.mp hrow]
    rfl
  have hchunksSim : Simulated p (insertAll insertChunk p.chunks) :=
    simulated_insertAll fun _ hchunk => simulated_insertChunk hchunk
  have hembeddingsSim : Simulated p (insertAll
      (fun store row => store.insertEmbedding p.key.collection p.profile row) p.embeddings.rows) :=
    simulated_insertAll fun row hrow => simulated_insertEmbedding (hrows row hrow)
  have hnodesSim : Simulated p (insertAll insertNode p.nodes) :=
    simulated_insertAll fun node _ => simulated_insertNode node
  have hedgesSim : Simulated p (insertAll insertEdge p.edges) :=
    simulated_insertAll fun edge _ => simulated_insertEdge edge
  obtain ⟨t₁, hdocument', h₁⟩ := simulated_insertDocument habove hdocument
  obtain ⟨t₂, hchunks', h₂⟩ := hchunksSim h₁ hchunks
  obtain ⟨t₃, hembeddings', h₃⟩ := hembeddingsSim h₂ hembeddings
  obtain ⟨t₄, hnodes', h₄⟩ := hnodesSim h₃ hnodes
  obtain ⟨t₅, hedges', h₅⟩ := hedgesSim h₄ hedges
  obtain ⟨t₆, hbump', h₆⟩ := above_bumpRevision h₅ hbump
  obtain ⟨t₇, hjob', -⟩ := simulated_insertJob h₆ hjob
  refine ⟨(t₇, m), ?_⟩
  unfold writePublication
  rw [bind_ok]
  refine ⟨t₁, hdocument', ?_⟩
  rw [bind_ok]
  refine ⟨t₂, hchunks', ?_⟩
  rw [bind_ok]
  refine ⟨t₃, hembeddings', ?_⟩
  rw [bind_ok]
  refine ⟨t₄, hnodes', ?_⟩
  rw [bind_ok]
  refine ⟨t₅, hedges', ?_⟩
  rw [bind_ok]
  refine ⟨(t₆, m), hbump', ?_⟩
  rw [bind_ok]
  exact ⟨t₇, hjob', rfl⟩

/-- When a publication is accepted: the sizes fit, the profile is the
    collection's, and the source holds the content or all is written. -/
theorem publishRevision_isOk :
    (∃ r, store.publishRevision p = .ok r) ↔
      p.profile.dimension = indexedEmbeddingDimension ∧
      (∀ vector ∈ p.embeddings.values, vector.length = indexedEmbeddingDimension) ∧
      (∃ row, (store.withCollection p.key.collection p.profile).collections.get?
        p.key.collection = some row ∧ row.profile = p.profile) ∧
      (store.holdsContent p.key p.revision.content_digest = true ∨
        ∃ r, (store.withCollection p.key.collection p.profile).writePublication p = .ok r) := by
  obtain ⟨collections, heq, -⟩ := store.withCollection_eq p.key.collection p.profile
  have hholds : (store.withCollection p.key.collection p.profile).holdsContent p.key
      p.revision.content_digest = store.holdsContent p.key p.revision.content_digest := by
    rw [← heq]
    rfl
  unfold publishRevision
  simp only [require_bind_ok, transaction_ok]
  unfold publishInTransaction
  simp only
  cases hrow : (store.withCollection p.key.collection p.profile).collections.get?
      p.key.collection with
  | none => simp
  | some row =>
    simp only [require_bind_ok, hholds, Option.some.injEq, exists_eq_left']
    by_cases hcontent : store.holdsContent p.key p.revision.content_digest = true
    · simp only [hcontent, if_true, true_or, and_true, exists_and_left]
      constructor
      · rintro ⟨hdimension, hlengths, hprofile, _⟩
        exact ⟨hdimension, hlengths, hprofile⟩
      · rintro ⟨hdimension, hlengths, hprofile⟩
        exact ⟨hdimension, hlengths, hprofile, _, rfl⟩
    · simp only [hcontent, Bool.false_eq_true, if_false, false_or, exists_and_left]

/-- A source that holds the content accepts it whatever is beside it. -/
theorem accepted_apart (h : Apart p.key store store')
    (hcontent : store.holdsContent p.key p.revision.content_digest = true)
    (haccepted : ∃ r, store.publishRevision p = .ok r) : ∃ r, store'.publishRevision p = .ok r := by
  rw [publishRevision_isOk] at haccepted ⊢
  obtain ⟨hdimension, hlengths, hprofile, -⟩ := haccepted
  refine ⟨hdimension, hlengths, ?_, Or.inl ?_⟩
  · rw [(h.withCollection p.profile).collection]
    exact hprofile
  · rw [h.holdsContent]
    exact hcontent

/-- A publication whose keys are free is accepted whatever is beside them. -/
theorem accepted_above (h : Above p store store')
    (haccepted : ∃ r, store.publishRevision p = .ok r) : ∃ r, store'.publishRevision p = .ok r := by
  rw [publishRevision_isOk] at haccepted ⊢
  obtain ⟨hdimension, hlengths, hprofile, hcase⟩ := haccepted
  refine ⟨hdimension, hlengths, ?_, ?_⟩
  · rw [(h.toApart.withCollection p.profile).collection]
    exact hprofile
  · rcases hcase with hcontent | ⟨r, hwrite⟩
    · left
      rw [h.toApart.holdsContent]
      exact hcontent
    · exact Or.inr (above_writePublication (h.withCollection p.profile) hwrite)

/-! ## Section 3: After a publication of another tenant -/

/-- Two publications that are both written take a key in common. -/
structure Clash (store : PostgresKnowledgeStore) (q p : Publication) : Prop where
  first_new : store.holdsContent q.key q.revision.content_digest = false
  second_new : store.holdsContent p.key p.revision.content_digest = false
  common : jobId q.key q.revision.source_revision = jobId p.key p.revision.source_revision ∨
    ∃ chunk_id ∈ q.chunk_ids, chunk_id ∈ p.chunk_ids

variable {q : Publication} {n : Nat}

/-- The rows of other tenants' sources stay as they are. -/
theorem apart_of_publish (h : store.publishRevision q = .ok (store', n)) {source : SourceKey}
    (htenant : source.tenant_id ≠ q.key.tenant_id) : Apart source store store' := by
  have hsource : source ≠ q.key := fun heq => htenant (congrArg SourceKey.tenant_id heq)
  have hcollection : source.collection ≠ q.key.collection := by
    intro heq
    exact htenant (congrArg CollectionKey.tenant_id heq)
  obtain ⟨collections, heq, hothers⟩ := store.withCollection_eq q.key.collection q.profile
  rcases publishRevision_ok h with ⟨-, rfl⟩ | ⟨-, hw⟩
  · rw [← heq]
    exact ⟨hothers _ hcollection, fun _ => rfl, fun _ hmem _ => hmem, fun _ hk => hk,
      fun _ hk => hk, fun _ hn => hn⟩
  · rw [← heq] at hw
    obtain ⟨time, hdocuments⟩ := hw.documents
    constructor
    · rw [hw.collections _ hcollection]
      exact hothers _ hcollection
    · intro m
      rw [hdocuments, Registry.get?_put, if_neg]
      intro hrow
      have hkey : source = q.revision.key := congrArg RevisionKey.source hrow
      rw [key_of_publication] at hkey
      exact hsource hkey
    · intro row hmem hrow
      rw [Registry.mem_values] at hmem ⊢
      rcases hw.chunks.only hmem with hold | ⟨chunk, hchunk, time', -, rfl⟩
      · exact hold
      · have hkey : chunk.key = q.key := Publication.key_of_mem hchunk
        exact absurd (hrow.symm.trans hkey) hsource
    · exact hw.nodes
    · exact hw.edges
    · intro m
      exact (hw.revisions _ m hcollection).mp

/-- So do the keys of a publication that does not clash. -/
theorem above_of_publish (h : store.publishRevision q = .ok (store', n))
    (htenant : p.key.tenant_id ≠ q.key.tenant_id)
    (hsecond : store.holdsContent p.key p.revision.content_digest = false)
    (hclash : ¬ Clash store q p) : Above p store store' := by
  have hapart := apart_of_publish h htenant
  obtain ⟨collections, heq, -⟩ := store.withCollection_eq q.key.collection q.profile
  rcases publishRevision_ok h with ⟨-, rfl⟩ | ⟨hfirst, hw⟩
  · rw [← heq] at hapart ⊢
    exact ⟨hapart, fun _ _ => rfl, fun _ _ => rfl, rfl⟩
  · rw [← heq] at hw
    have hjob : jobId q.key q.revision.source_revision ≠ jobId p.key p.revision.source_revision :=
      fun hsame => hclash ⟨hfirst, hsecond, Or.inl hsame⟩
    have hids : ∀ chunk_id ∈ p.chunk_ids, chunk_id ∉ q.chunk_ids :=
      fun chunk_id hp hq => hclash ⟨hfirst, hsecond, Or.inr ⟨chunk_id, hq, hp⟩⟩
    refine ⟨hapart, ?_, ?_, ?_⟩
    · intro chunk_id hid
      apply Option.ext
      intro row
      constructor
      · intro hrow
        rcases hw.chunks.only hrow with hold | ⟨chunk, hchunk, time, rfl, -⟩
        · exact hold
        · exact absurd (List.mem_map_of_mem hchunk) (hids _ hid)
      · intro hrow
        exact hw.chunks.kept hrow
    · intro chunk_id hid
      exact hw.embeddings chunk_id (hids chunk_id hid)
    · rw [hw.jobs]
      exact Table.get?_set_ne _ _ hjob.symm

/-- **Next publication**: after one tenant's publication, another tenant's that
    was acceptable before it is refused exactly when the two clash. -/
theorem publish_after_iff (h : store.publishRevision q = .ok (store', n))
    (htenant : p.key.tenant_id ≠ q.key.tenant_id)
    (haccepted : ∃ r, store.publishRevision p = .ok r) :
    (∃ r, store'.publishRevision p = .ok r) ↔ ¬ Clash store q p := by
  have hapart := apart_of_publish h htenant
  constructor
  · rintro ⟨⟨after, m⟩, hagain⟩ ⟨hfirst, hsecond, hcommon⟩
    -- Both were written, so the second found its keys free.
    rcases publishRevision_ok h with ⟨hheld, -⟩ | ⟨-, hq⟩
    · rw [hheld] at hfirst
      cases hfirst
    · rcases publishRevision_ok hagain with ⟨hheld, -⟩ | ⟨-, hp⟩
      · rw [hapart.holdsContent, hsecond] at hheld
        cases hheld
      · obtain ⟨collections, heq, -⟩ := store'.withCollection_eq p.key.collection p.profile
        rw [← heq] at hp
        rcases hcommon with hjob | ⟨chunk_id, hinq, hinp⟩
        · have htaken := hp.job_fresh
          rw [← hjob, hq.jobs] at htaken
          simp at htaken
        · obtain ⟨chunk, hchunk, rfl⟩ := List.mem_map.mp hinq
          obtain ⟨other, hother, hid⟩ := List.mem_map.mp hinp
          obtain ⟨time, hadded⟩ := hq.chunks.added chunk hchunk
          have hfree := hp.chunks.fresh other hother
          rw [hid, hadded] at hfree
          cases hfree
  · intro hclash
    cases hcontent : store.holdsContent p.key p.revision.content_digest with
    | true => exact accepted_apart hapart hcontent haccepted
    | false => exact accepted_above (above_of_publish h htenant hcontent hclash) haccepted

/-- The live chunks of other tenants' collections stay as they are. -/
theorem listLiveChunks_of_publish (h : store.publishRevision q = .ok (store', n))
    {collection : CollectionKey} (htenant : collection.tenant_id ≠ q.key.tenant_id)
    (principal_id : RequiredText) :
    store'.listLiveChunks collection principal_id = store.listLiveChunks collection principal_id := by
  have hkept : ∀ {chunk_id row}, store.chunks.get? chunk_id = some row →
      store'.chunks.get? chunk_id = some row := by
    intro chunk_id row hrow
    obtain ⟨collections, heq, -⟩ := store.withCollection_eq q.key.collection q.profile
    rcases publishRevision_ok h with ⟨-, rfl⟩ | ⟨-, hw⟩
    · rw [← heq]
      exact hrow
    · rw [← heq] at hw
      exact hw.chunks.kept hrow
  have hlive : ∀ chunk : KnowledgeChunk, chunk.key.collection = collection →
      (chunk ∈ store'.chunks.values ↔ chunk ∈ store.chunks.values) ∧
        store'.isLive chunk = store.isLive chunk := by
    intro chunk hchunk
    have hapart : Apart chunk.key store store' := by
      apply apart_of_publish h
      intro heq
      apply htenant
      rw [← hchunk]
      exact heq
    constructor
    · constructor
      · intro hmem
        exact hapart.parts chunk hmem rfl
      · intro hmem
        rw [Registry.mem_values] at hmem ⊢
        exact hkept hmem
    · unfold isLive
      rw [hapart.getRevision]
  unfold listLiveChunks
  apply List.sortBy_congr
  · apply (List.perm_ext_iff_of_nodup ((Registry.nodup_values store'.chunks).filter _)
      ((Registry.nodup_values store.chunks).filter _)).mpr
    intro chunk
    rw [List.mem_filter, List.mem_filter]
    by_cases hchunk : chunk.key.collection = collection
    · obtain ⟨hmem, hsame⟩ := hlive chunk hchunk
      rw [hmem, hsame]
    · simp [hchunk]
  · intro a ha b hb hid
    exact Registry.eq_of_key (List.mem_filter.mp ha).1 (List.mem_filter.mp hb).1 hid

/-- So an ingest of another tenant begins as it would have begun before. -/
theorem begin_of_publish (h : store.publishRevision q = .ok (store', n))
    (pipeline : IngestionPipeline) {document : SourceDocument}
    (htenant : document.tenant_id ≠ q.key.tenant_id) (created_at : JsonFloat) :
    pipeline.begin publisher store' document created_at =
      pipeline.begin publisher store document created_at := by
  have hapart : Apart document.key store store' := apart_of_publish h htenant
  have hread : publisher.get_revision store' document.key =
      publisher.get_revision store document.key := congrArg Except.ok hapart.getRevision
  have hprofile : publisher.embedding_profile store' document.key.collection =
      publisher.embedding_profile store document.key.collection := by
    show Except.ok (store'.embeddingProfile _) = Except.ok (store.embeddingProfile _)
    unfold embeddingProfile
    rw [hapart.collection]
  have hrevision : publisher.collection_revision store' document.key.collection =
      publisher.collection_revision store document.key.collection := by
    show Except.ok (store'.collectionRevision _) = Except.ok (store.collectionRevision _)
    unfold collectionRevision
    rw [hapart.collection]
  have hlive : ∀ principal_id, publisher.list_live_chunks store' document.key.collection
      principal_id = publisher.list_live_chunks store document.key.collection principal_id :=
    fun principal_id => congrArg Except.ok (listLiveChunks_of_publish h htenant principal_id)
  unfold IngestionPipeline.begin IngestionPipeline.unchangedResult IngestionPipeline.changed
  simp only [hread, hprofile, hrevision, hlive]

theorem finish_isOk {p : PendingIngest} :
    (∃ r, p.finish publisher store = .ok r) ↔ ∃ r, store.publishRevision p.publication = .ok r := by
  constructor
  · rintro ⟨⟨after, result⟩, h⟩
    obtain ⟨n, hpublish, -⟩ := publish_of_finish h
    exact ⟨_, hpublish⟩
  · rintro ⟨⟨after, n⟩, h⟩
    refine ⟨(after, p.result n), ?_⟩
    unfold PendingIngest.finish
    show (store.publishRevision p.publication >>= _) = _
    rw [h]
    rfl

end PostgresKnowledgeStore

/-! ## Section 4: Isolation -/

def globex : RequiredText := ⟨"globex", by decide⟩

/-- Texts are embedded by as many ones as the column holds. -/
def wideVector : List Decimal := List.replicate indexedEmbeddingDimension (whole 1)

def wideProfile : EmbeddingProfile :=
  { letterProfile with
    dimension := indexedEmbeddingDimension
    dimension_pos := by decide }

/-- A first publication of a tenant's FAQ in one chunk. -/
def smallChunk (tenant_id : RequiredText) (chunk_id : String) : KnowledgeChunk :=
  { faqChunk with
    tenant_id := tenant_id
    chunk_id := chunk_id
    content_digest := faqDocument.content_digest }

def smallIngest (tenant_id : RequiredText) (chunk_id : String) : PendingIngest where
  existing := none
  publication :=
    { document := { faqDocument with tenant_id := tenant_id }
      revision := revisionOf (smallChunk tenant_id chunk_id)
      chunks := [smallChunk tenant_id chunk_id]
      embeddings := ⟨[(chunk_id, wideVector)], List.nodup_singleton _⟩
      nodes := []
      edges := []
      profile := wideProfile
      describes := ⟨rfl, rfl, rfl, rfl, rfl, rfl, rfl⟩
      parts := by
        intro chunk hchunk
        obtain rfl := List.mem_singleton.mp hchunk
        exact ⟨rfl, rfl, rfl, rfl, rfl, rfl⟩
      chunks_ne := List.cons_ne_nil _ _
      embedded := by
        intro id hid
        obtain ⟨vector, hget⟩ := Option.isSome_iff_exists.mp hid
        obtain ⟨rfl, -⟩ := Prod.mk.inj (List.mem_singleton.mp (Table.mem_rows.mpr hget))
        exact List.mem_singleton.mpr rfl }
  numbered := rfl

def widePipeline : IngestionPipeline where
  config := { opsConfig with embedding_profile := wideProfile }
  embed texts _ := .ok (texts.map fun _ => wideVector)
  extract _ := .ok ([], [])
  first _ := wildcard

def colonDocument (tenant_id collection_id : RequiredText) : SourceDocument :=
  { faqDocument with
    tenant_id := tenant_id
    collection_id := collection_id }

/-- The document `b:c` of the tenant `a`, and `c` of the tenant `a:b`. -/
def outerDocument : SourceDocument := colonDocument ⟨"a", by decide⟩ ⟨"b:c", by decide⟩

def innerDocument : SourceDocument := colonDocument ⟨"a:b", by decide⟩ ⟨"c", by decide⟩

open PostgresKnowledgeStore in
/-- On empty tables an ingest publishes a first revision. -/
theorem published_on_empty {pipeline : IngestionPipeline} {document : SourceDocument}
    {created_at : JsonFloat} {store : PostgresKnowledgeStore} {result : IngestionResult}
    (h : pipeline.ingest publisher empty document created_at = .ok (store, result))
    (hwritten : result.idempotent = false) :
    ∃ p, pipeline.begin publisher empty document created_at = .ok (.pending p) ∧
      p.publication.revision.source_revision = 1 ∧
      empty.holdsContent p.publication.key p.publication.revision.content_digest = false ∧
      ∃ n, empty.publishRevision p.publication = .ok (store, n) := by
  rcases ingest_ok h with ⟨-, hsame⟩ | ⟨p, n, hbegin, hpublish, -⟩
  · rw [hsame] at hwritten
    cases hwritten
  · obtain ⟨hread, -, -⟩ := begin_pending hbegin
    have hnone : p.existing = none := (Except.ok.inj hread).symm
    refine ⟨p, hbegin, ?_, rfl, n, hpublish⟩
    rw [p.numbered, hnone]
    rfl

open PostgresKnowledgeStore in
theorem outer_ingested : (widePipeline.ingest publisher empty outerDocument
    (.finite (whole 1))).map (fun r => r.2.idempotent) = .ok false := by
  decide +kernel

open PostgresKnowledgeStore in
theorem inner_ingested : (widePipeline.ingest publisher empty innerDocument
    (.finite (whole 1))).map (fun r => r.2.idempotent) = .ok false := by
  decide +kernel

end CBrain.Knowledge
