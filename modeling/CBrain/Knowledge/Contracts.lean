import CBrain.Agent.Record
import Mathlib.Data.Finset.Basic

/-! # Knowledge contracts

    Models `cbrain/knowledge/contracts.py` and the settings of
    `cbrain/knowledge/configuration.py` that ingestion and retrieval read.

    The checks of a `__post_init__` are fields or subtypes, so a value that
    fails them cannot be built.  A set of principals is a `Finset`; a
    timestamp is an exact decimal.  `str.casefold` is a parameter of what
    uses it. -/

namespace CBrain.Knowledge

open Json (Dict)

/-! ## Section 1: Errors and text -/

/-- `KnowledgeError`. -/
def knowledgeError (message : String) : Exn := Exn.of .knowledgeError message

/-- `KnowledgeUnavailable`, a subclass. -/
def knowledgeUnavailable : Exn :=
  ⟨.knowledgeError, "KnowledgeUnavailable", [.text "KNOWLEDGE_UNAVAILABLE"]⟩

/-- `str.strip()` on characters. -/
def stripChars (cs : List Char) : List Char :=
  ((cs.dropWhile isSpace).reverse.dropWhile isSpace).reverse

/-- What `require_text` returns: not blank, stripped, without null bytes. -/
def isRequiredText (s : String) : Bool :=
  nonBlank s && stripChars s.toList == s.toList && !s.toList.contains '\x00'

/-- Text that `require_text` returns. -/
abbrev RequiredText : Type := { s : String // isRequiredText s = true }

instance lawfulBEqRequiredText : LawfulBEq RequiredText := inferInstance

theorem head?_dropWhile_isSpace {cs : List Char} {c : Char}
    (h : (cs.dropWhile isSpace).head? = some c) : isSpace c = false := by
  induction cs with
  | nil => simp at h
  | cons d cs ih =>
    rw [List.dropWhile_cons] at h
    by_cases hd : isSpace d = true
    · rw [if_pos hd] at h
      exact ih h
    · rw [if_neg hd] at h
      obtain rfl : d = c := by simpa using h
      simpa using hd

theorem dropWhile_isSpace_eq {cs : List Char} (h : ∀ c, cs.head? = some c → isSpace c = false) :
    cs.dropWhile isSpace = cs := by
  cases cs with
  | nil => rfl
  | cons c cs =>
    have hc := h c rfl
    rw [List.dropWhile_cons, if_neg (by simp [hc])]

/-- Stripping twice is stripping once. -/
theorem stripChars_idem (cs : List Char) : stripChars (stripChars cs) = stripChars cs := by
  unfold stripChars
  generalize hleft : cs.dropWhile isSpace = left
  have hhead : ∀ c, left.head? = some c → isSpace c = false := by
    intro c hc
    rw [← hleft] at hc
    exact head?_dropWhile_isSpace hc
  -- What the right end loses leaves the left end alone.
  have hsuffix : (left.reverse.dropWhile isSpace).reverse <+: left := by
    have h := List.dropWhile_suffix isSpace (l := left.reverse)
    simpa using List.reverse_prefix.mpr h
  have hkeep : (left.reverse.dropWhile isSpace).reverse.dropWhile isSpace =
      (left.reverse.dropWhile isSpace).reverse := by
    apply dropWhile_isSpace_eq
    intro c hc
    obtain ⟨tail, htail⟩ := hsuffix
    apply hhead c
    rw [← htail]
    exact (List.head?_append_of_ne_nil _ (by intro hnil; rw [hnil] at hc; cases hc)).trans hc
  rw [hkeep, List.reverse_reverse]
  have htwice : (left.reverse.dropWhile isSpace).dropWhile isSpace =
      left.reverse.dropWhile isSpace :=
    dropWhile_isSpace_eq fun c hc => head?_dropWhile_isSpace hc
  rw [htwice]

theorem mem_stripChars {cs : List Char} {c : Char} (h : c ∈ stripChars cs) : c ∈ cs := by
  unfold stripChars at h
  have h₁ := (List.dropWhile_suffix isSpace).subset (List.mem_reverse.mp h)
  exact (List.dropWhile_suffix isSpace).subset (List.mem_reverse.mp h₁)

/-- Dropping spaces keeps whatever is not one. -/
theorem any_dropWhile_isSpace (cs : List Char) :
    (cs.dropWhile isSpace).any (fun c => !isSpace c) = cs.any fun c => !isSpace c := by
  induction cs with
  | nil => rfl
  | cons c cs ih =>
    rw [List.dropWhile_cons]
    by_cases h : isSpace c = true
    · rw [if_pos h, ih]
      simp [h]
    · rw [if_neg h]

theorem any_stripChars (cs : List Char) :
    (stripChars cs).any (fun c => !isSpace c) = cs.any fun c => !isSpace c := by
  unfold stripChars
  rw [List.any_reverse, any_dropWhile_isSpace, List.any_reverse, any_dropWhile_isSpace]

theorem isRequiredText_strip {value : String} (hblank : nonBlank value = true)
    (hnull : value.toList.contains '\x00' = false) :
    isRequiredText (String.ofList (stripChars value.toList)) = true := by
  have hnot : (stripChars value.toList).contains '\x00' = false := by
    apply Bool.eq_false_iff.mpr
    intro h
    have hmem := mem_stripChars (List.contains_iff_mem.mp h)
    rw [List.contains_iff_mem.mpr hmem] at hnull
    cases hnull
  unfold isRequiredText nonBlank
  rw [String.toList_ofList, any_stripChars, stripChars_idem, hnot]
  simpa [nonBlank] using hblank

/-- `require_text`. -/
def requireText (value field_name : String) : Raises RequiredText :=
  if hblank : nonBlank value = true then
    if hnull : value.toList.contains '\x00' = false then
      .ok ⟨String.ofList (stripChars value.toList), isRequiredText_strip hblank hnull⟩
    else .error (knowledgeError s!"{field_name} must not contain null bytes")
  else .error (knowledgeError s!"{field_name} must be a non-empty string")

/-- `finite_timestamp`. -/
def finiteTimestamp (value : JsonFloat) (field_name : String) : Raises Decimal :=
  match value with
  | .finite d => .ok d
  | _ => .error (knowledgeError s!"{field_name} must be a finite number")

/-- `sha256_hex` of text. -/
def sha256Hex (raw : String) : String := Sha256.hexdigest raw.toUTF8

/-- `sha256_hex` of an object: of its canonical JSON text. -/
def sha256HexOf (payload : Dict) : String :=
  Sha256.hexdigest (Json.encode (Json.dumps .compact payload.json))

/-! ## Section 2: Documents, revisions and chunks -/

/-- `DistanceMetric`. -/
inductive DistanceMetric where
  | cosine
  deriving DecidableEq, Repr

def DistanceMetric.value : DistanceMetric → String
  | .cosine => "cosine"

/-- `EmbeddingProfile`. -/
structure EmbeddingProfile where
  profile_id : RequiredText
  model_id : RequiredText
  dimension : Nat
  distance_metric : DistanceMetric
  normalization_version : RequiredText
  dimension_pos : 0 < dimension
  deriving DecidableEq

/-- What `EmbeddingProfile.digest` hashes. -/
def EmbeddingProfile.payload (profile : EmbeddingProfile) : Dict :=
  object
    [("profile_id", .str profile.profile_id.val), ("model_id", .str profile.model_id.val),
      ("dimension", .nat profile.dimension),
      ("distance_metric", .str profile.distance_metric.value),
      ("normalization_version", .str profile.normalization_version.val)]

/-- `EmbeddingProfile.digest`. -/
def EmbeddingProfile.digest (profile : EmbeddingProfile) : String := sha256HexOf profile.payload

/-- A tenant's collection. -/
structure CollectionKey where
  tenant_id : RequiredText
  collection_id : RequiredText
  deriving DecidableEq

/-- A source of a collection. -/
structure SourceKey where
  tenant_id : RequiredText
  collection_id : RequiredText
  source_id : RequiredText
  deriving DecidableEq

def SourceKey.collection (key : SourceKey) : CollectionKey := ⟨key.tenant_id, key.collection_id⟩

/-- `document.media_type`: the two types the contract supports. -/
inductive MediaType where
  | plain
  | markdown
  deriving DecidableEq, Repr

/-- `SourceDocument`.  Its metadata is checked and then read by nobody. -/
structure SourceDocument where
  tenant_id : RequiredText
  collection_id : RequiredText
  source_id : RequiredText
  media_type : MediaType
  text : String
  acl_principals : Finset RequiredText
  created_at : Decimal
  provenance : RequiredText
  text_ne : text ≠ ""
  text_null : text.toList.contains '\x00' = false

namespace SourceDocument

/-- The document's source. -/
def key (document : SourceDocument) : SourceKey :=
  ⟨document.tenant_id, document.collection_id, document.source_id⟩

/-- `document.content_digest()`. -/
def content_digest (document : SourceDocument) : String := sha256Hex document.text

end SourceDocument

/-- `DocumentRevision`. -/
structure DocumentRevision where
  tenant_id : RequiredText
  collection_id : RequiredText
  source_id : RequiredText
  source_revision : Nat
  content_digest : String
  provenance : RequiredText
  acl_principals : Finset RequiredText
  created_at : Decimal
  schema_version : Nat
  tombstoned : Bool
  source_revision_pos : 0 < source_revision
  deriving DecidableEq

theorem DocumentRevision.next_revision_pos (revision : DocumentRevision) :
    0 < revision.source_revision + 1 :=
  Nat.succ_pos _

/-- `KNOWLEDGE_SCHEMA_VERSION`. -/
def knowledgeSchemaVersion : Nat := 1

/-- `KnowledgeChunk`. -/
structure KnowledgeChunk where
  chunk_id : String
  tenant_id : RequiredText
  collection_id : RequiredText
  source_id : RequiredText
  source_revision : Nat
  chunk_index : Nat
  text : String
  content_digest : String
  provenance : RequiredText
  acl_principals : Finset RequiredText
  created_at : Decimal
  schema_version : Nat
  source_revision_pos : 0 < source_revision
  text_ne : text ≠ ""
  deriving DecidableEq

/-- The chunk's source. -/
def KnowledgeChunk.key (chunk : KnowledgeChunk) : SourceKey :=
  ⟨chunk.tenant_id, chunk.collection_id, chunk.source_id⟩

/-! ## Section 3: Queries and their answers -/

/-- The words `str.split()` finds, in order; `word` is the one being read. -/
def splitWords : List Char → List Char → List String
  | word, [] => if word.isEmpty then [] else [String.ofList word]
  | word, c :: cs =>
    if isSpace c then
      if word.isEmpty then splitWords [] cs else String.ofList word :: splitWords [] cs
    else splitWords (word ++ [c]) cs

/-- `text.split()`. -/
def pySplit (text : String) : List String := splitWords [] text.toList

/-- `normalize_text`. -/
def normalizeText (text : String) : String := " ".intercalate (pySplit text)

/-- `RetrievalQuery`. -/
structure RetrievalQuery where
  tenant_id : RequiredText
  collection_id : RequiredText
  principal_id : RequiredText
  text : RequiredText
  top_k : Nat
  created_at : Decimal
  policy_version : RequiredText
  top_k_pos : 0 < top_k

/-- What `RetrievalQuery.digest` hashes. -/
def RetrievalQuery.payload (casefold : String → String) (query : RetrievalQuery) : Dict :=
  object
    [("tenant_id", .str query.tenant_id.val), ("collection_id", .str query.collection_id.val),
      ("principal_id", .str query.principal_id.val),
      ("text", .str (casefold (normalizeText query.text.val))), ("top_k", .nat query.top_k),
      ("policy_version", .str query.policy_version.val)]

/-- `RetrievalQuery.digest`. -/
def RetrievalQuery.digest (casefold : String → String) (query : RetrievalQuery) : String :=
  sha256HexOf (query.payload casefold)

/-- `Citation`. -/
structure Citation where
  tenant_id : RequiredText
  source_id : RequiredText
  source_revision : Nat
  content_digest : String
  provenance : RequiredText
  acl_principals : Finset RequiredText
  created_at : Decimal
  schema_version : Nat
  chunk_id : String
  deriving DecidableEq

/-- The citation of a chunk, as `citations_for` of both stores writes it. -/
def KnowledgeChunk.citation (chunk : KnowledgeChunk) : Citation where
  tenant_id := chunk.tenant_id
  source_id := chunk.source_id
  source_revision := chunk.source_revision
  content_digest := chunk.content_digest
  provenance := chunk.provenance
  acl_principals := chunk.acl_principals
  created_at := chunk.created_at
  schema_version := chunk.schema_version
  chunk_id := chunk.chunk_id

/-- `RetrievalHit`. -/
structure RetrievalHit (F : Type) where
  chunk : KnowledgeChunk
  score : F
  citation : Citation
  rank : Nat
  /-- "citation does not match chunk" cannot occur. -/
  cites : citation.chunk_id = chunk.chunk_id ∧ citation.content_digest = chunk.content_digest ∧
    citation.source_id = chunk.source_id ∧ citation.tenant_id = chunk.tenant_id

/-- `RetrievalDiagnostics`, without the stage latencies. -/
structure RetrievalDiagnostics where
  vector_candidate_count : Nat
  keyword_candidate_count : Nat
  graph_expanded_count : Nat
  cache_hit : Bool
  final_hit_count : Nat
  truncated : Bool
  deriving DecidableEq, Repr

/-- `UNTRUSTED_SOURCE_CONTEXT`. -/
def untrustedSourceContext : String := "UNTRUSTED_SOURCE_CONTEXT"

/-- `RetrievedContext`.  Its `trust` is always `UNTRUSTED_SOURCE_CONTEXT`. -/
structure RetrievedContext (F : Type) where
  query_digest : String
  hits : List (RetrievalHit F)
  diagnostics : RetrievalDiagnostics
  quoted_evidence : String

/-! ## Section 4: Graph records -/

/-- `GraphNode`, without the attributes' and merge fields' texts, which no
    store reads. -/
structure GraphNode where
  node_id : RequiredText
  tenant_id : RequiredText
  canonical_type : RequiredText
  canonical_name : RequiredText
  provenance_chunk_ids : List RequiredText
  confidence : Decimal
  valid_from : Decimal
  valid_to : Option Decimal
  source_revision : Nat
  source_id : RequiredText
  schema_version : Nat
  provenance_ne : provenance_chunk_ids ≠ []
  deriving DecidableEq

/-- `GraphEdge`. -/
structure GraphEdge where
  edge_id : RequiredText
  tenant_id : RequiredText
  source_node_id : RequiredText
  relation_type : RequiredText
  target_node_id : RequiredText
  provenance_chunk_ids : List RequiredText
  confidence : Decimal
  valid_from : Decimal
  valid_to : Option Decimal
  source_revision : Nat
  source_id : RequiredText
  schema_version : Nat
  provenance_ne : provenance_chunk_ids ≠ []
  deriving DecidableEq

/-- `GraphPath`. -/
structure GraphPath where
  nodes : List GraphNode
  edges : List GraphEdge
  citations : List Citation
  nodes_ne : nodes ≠ []
  citations_ne : citations ≠ []

/-! ## Section 5: Settings, cache keys and results -/

/-- `KnowledgeConfig`, without the connection strings and the store timeout. -/
structure KnowledgeConfig where
  cache_ttl_seconds : Decimal
  max_document_bytes : Nat
  chunk_size : Nat
  chunk_overlap : Nat
  top_k : Nat
  vector_candidate_count : Nat
  keyword_candidate_count : Nat
  graph_max_depth : Nat
  graph_max_nodes : Nat
  embedding_profile : EmbeddingProfile
  max_context_chunks : Nat
  max_context_bytes : Nat
  max_context_tokens : Nat
  policy_version : RequiredText
  cache_ttl_pos : 0 < cache_ttl_seconds
  max_document_bytes_pos : 0 < max_document_bytes
  chunk_overlap_lt : chunk_overlap < chunk_size
  top_k_pos : 0 < top_k
  vector_candidate_count_pos : 0 < vector_candidate_count
  keyword_candidate_count_pos : 0 < keyword_candidate_count
  graph_max_depth_pos : 0 < graph_max_depth
  graph_max_nodes_pos : 0 < graph_max_nodes
  max_context_chunks_pos : 0 < max_context_chunks
  max_context_bytes_pos : 0 < max_context_bytes
  max_context_tokens_pos : 0 < max_context_tokens

/-- What `KnowledgeConfig.retrieval_digest` hashes. -/
def KnowledgeConfig.retrievalPayload (config : KnowledgeConfig) : Dict :=
  object
    [("top_k", .nat config.top_k), ("vector_candidate_count", .nat config.vector_candidate_count),
      ("keyword_candidate_count", .nat config.keyword_candidate_count),
      ("graph_max_depth", .nat config.graph_max_depth),
      ("graph_max_nodes", .nat config.graph_max_nodes),
      ("max_context_chunks", .nat config.max_context_chunks),
      ("max_context_bytes", .nat config.max_context_bytes),
      ("max_context_tokens", .nat config.max_context_tokens),
      ("policy_version", .str config.policy_version.val)]

/-- `KnowledgeConfig.retrieval_digest`. -/
def KnowledgeConfig.retrievalDigest (config : KnowledgeConfig) : String :=
  sha256HexOf config.retrievalPayload

/-- `CacheKey`. -/
structure CacheKey where
  schema_version : Nat
  tenant_id : RequiredText
  principal_acl_digest : String
  collection_id : RequiredText
  collection_revision : Nat
  query_digest : String
  embedding_profile_digest : String
  retrieval_config_digest : String
  policy_version : RequiredText
  top_k : Nat
  deriving DecidableEq

/-- `CacheKey.encoded`. -/
def CacheKey.encoded (key : CacheKey) : String :=
  sha256HexOf (object
    [("schema_version", .nat key.schema_version), ("tenant_id", .str key.tenant_id.val),
      ("principal_acl_digest", .str key.principal_acl_digest),
      ("collection_id", .str key.collection_id.val),
      ("collection_revision", .nat key.collection_revision),
      ("query_digest", .str key.query_digest),
      ("embedding_profile_digest", .str key.embedding_profile_digest),
      ("retrieval_config_digest", .str key.retrieval_config_digest),
      ("policy_version", .str key.policy_version.val), ("top_k", .nat key.top_k)])

/-- `IngestionResult`. -/
structure IngestionResult where
  tenant_id : RequiredText
  collection_id : RequiredText
  source_id : RequiredText
  source_revision : Nat
  collection_revision : Nat
  chunk_ids : List String
  content_digest : String
  idempotent : Bool
  published : Bool
  deriving DecidableEq

end CBrain.Knowledge
