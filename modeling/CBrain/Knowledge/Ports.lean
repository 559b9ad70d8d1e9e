import CBrain.Knowledge.Graph

/-! # Knowledge ports

    Models `cbrain/knowledge/ports.py`.  The arguments of `publish_revision`
    are one value: a `Publication` says in its fields how its revision and
    its chunks belong to its document, so a store can only be handed parts
    that fit.  A store's ports are the functions that writers call on it
    (`KnowledgePublisher`) and those that retrieval calls while it does not
    change (`KnowledgeReader`). -/

namespace CBrain.Knowledge

/-! ## Section 1: Publications -/

/-- The revision is the document's. -/
structure DocumentRevision.Describes (revision : DocumentRevision) (document : SourceDocument) :
    Prop where
  tenant_id : revision.tenant_id = document.tenant_id
  collection_id : revision.collection_id = document.collection_id
  source_id : revision.source_id = document.source_id
  content_digest : revision.content_digest = document.content_digest
  provenance : revision.provenance = document.provenance
  acl_principals : revision.acl_principals = document.acl_principals
  tombstoned : revision.tombstoned = false

/-- The arguments of `publish_revision`. -/
structure Publication where
  document : SourceDocument
  revision : DocumentRevision
  chunks : List KnowledgeChunk
  embeddings : Table String (List Decimal)
  nodes : List GraphNode
  edges : List GraphEdge
  profile : EmbeddingProfile
  describes : revision.Describes document
  parts : ∀ chunk ∈ chunks, chunk.PartOf revision
  chunks_ne : chunks ≠ []
  embedded : ∀ chunk_id, (embeddings.get? chunk_id).isSome = true →
    chunk_id ∈ chunks.map KnowledgeChunk.chunk_id

namespace Publication

/-- The source that is published. -/
def key (p : Publication) : SourceKey := p.document.key

/-- The ids of the chunks. -/
def chunk_ids (p : Publication) : List String := p.chunks.map KnowledgeChunk.chunk_id

theorem key_of_mem {p : Publication} {chunk : KnowledgeChunk} (h : chunk ∈ p.chunks) :
    chunk.key = p.key := by
  have hpart := p.parts chunk h
  have hdoc := p.describes
  unfold KnowledgeChunk.key Publication.key SourceDocument.key
  rw [hpart.tenant_id, hpart.collection_id, hpart.source_id, hdoc.tenant_id, hdoc.collection_id,
    hdoc.source_id]

end Publication

/-! ## Section 2: Ports -/

/-- The part of a `KnowledgeStore` that writers use, on stores of type `S`. -/
structure KnowledgePublisher (S : Type) where
  get_revision : S → SourceKey → Raises (Option DocumentRevision)
  collection_revision : S → CollectionKey → Raises Nat
  embedding_profile : S → CollectionKey → Raises (Option EmbeddingProfile)
  list_live_chunks : S → CollectionKey → RequiredText → Raises (List KnowledgeChunk)
  publish_revision : S → Publication → Raises (S × Nat)
  tombstone : S → SourceKey → JsonFloat → Raises (S × Nat)
  upsert_nodes : S → List GraphNode → Raises S
  upsert_edges : S → List GraphEdge → Raises S

/-- The part of a `KnowledgeStore` that retrieval uses, of one store. -/
structure KnowledgeReader (F : Type) where
  collection_revision : CollectionKey → Raises Nat
  search_vector : CollectionKey → RequiredText → List Decimal → Nat → Raises (List (String × F))
  search_keyword : CollectionKey → RequiredText → String → Nat → Raises (List (String × F))
  load_chunks : List String → Raises (List KnowledgeChunk)
  nodes_for_chunks : List String → Raises (List GraphNode)
  traverse : RequiredText → RequiredText → List RequiredText → Nat → Nat → Raises (List GraphPath)

end CBrain.Knowledge
