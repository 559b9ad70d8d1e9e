import CBrain.Framework.Table
import CBrain.Knowledge.Contracts

/-! # Chunking

    Models `cbrain/knowledge/chunking.py`: splitting a document into chunks,
    who may read one, and the selection of chunks of different sources. -/

namespace CBrain.Knowledge

/-! ## Section 1: Splitting -/

/-- `text_digest`. -/
def textDigest (text : String) : String := sha256Hex (normalizeText text)

/-- What `chunk_id_for` hashes. -/
def chunkPayload (key : SourceKey) (source_revision chunk_index : Nat)
    (normalized_text : String) : Json.Dict :=
  object
    [("tenant_id", .str key.tenant_id.val), ("collection_id", .str key.collection_id.val),
      ("source_id", .str key.source_id.val), ("source_revision", .nat source_revision),
      ("chunk_index", .nat chunk_index),
      ("normalized_text_digest", .str (textDigest normalized_text))]

/-- `chunk_id_for`. -/
def chunkIdFor (key : SourceKey) (source_revision chunk_index : Nat)
    (normalized_text : String) : String :=
  sha256HexOf (chunkPayload key source_revision chunk_index normalized_text)

/-- The windows of `size` characters, each `overlap` characters before the end
    of the last. -/
def windows (size overlap : Nat) (h : overlap < size) (cs : List Char) : List (List Char) :=
  if _hlast : cs.length ≤ size then [cs]
  else cs.take size :: windows size overlap h (cs.drop (size - overlap))
termination_by cs.length
decreasing_by
  rw [List.length_drop]
  omega

/-- `split_chunks`, of a size and an overlap that a configuration has. -/
def splitChunks (config : KnowledgeConfig) (text : String) : Raises (List String) :=
  let normalized := normalizeText text
  if normalized = "" then
    .error (knowledgeError "document text is empty after normalization")
  else if normalized.length ≤ config.chunk_size then .ok [normalized]
  else
    .ok ((windows config.chunk_size config.chunk_overlap config.chunk_overlap_lt
      normalized.toList).map String.ofList)

/-! ## Section 2: Chunks of a document -/

/-- The revision a document is published as. -/
def SourceDocument.revision (document : SourceDocument) (source_revision : Nat)
    (h : 0 < source_revision) (created_at : Decimal) : DocumentRevision where
  tenant_id := document.tenant_id
  collection_id := document.collection_id
  source_id := document.source_id
  source_revision := source_revision
  content_digest := document.content_digest
  provenance := document.provenance
  acl_principals := document.acl_principals
  created_at := created_at
  schema_version := knowledgeSchemaVersion
  tombstoned := false
  source_revision_pos := h

/-- One chunk of `build_chunks`. -/
def buildChunk (document : SourceDocument) (source_revision : Nat) (h : 0 < source_revision)
    (created_at : Decimal) (chunk_index : Nat) (text : String) : Raises KnowledgeChunk :=
  if htext : text ≠ "" then
    .ok
      { chunk_id := chunkIdFor document.key source_revision chunk_index text
        tenant_id := document.tenant_id
        collection_id := document.collection_id
        source_id := document.source_id
        source_revision := source_revision
        chunk_index := chunk_index
        text := text
        content_digest := textDigest text
        provenance := document.provenance
        acl_principals := document.acl_principals
        created_at := created_at
        schema_version := knowledgeSchemaVersion
        source_revision_pos := h
        text_ne := htext }
  else .error (knowledgeError "chunk text must be a non-empty string")

/-- The chunks of the texts from an index on. -/
def buildFrom (document : SourceDocument) (source_revision : Nat) (h : 0 < source_revision)
    (created_at : Decimal) : Nat → List String → Raises (List KnowledgeChunk)
  | _, [] => .ok []
  | chunk_index, text :: texts => do
    let chunk ← buildChunk document source_revision h created_at chunk_index text
    let chunks ← buildFrom document source_revision h created_at (chunk_index + 1) texts
    pure (chunk :: chunks)

/-- `build_chunks`. -/
def buildChunks (config : KnowledgeConfig) (document : SourceDocument) (source_revision : Nat)
    (h : 0 < source_revision) (created_at : Decimal) : Raises (List KnowledgeChunk) := do
  let texts ← splitChunks config document.text
  buildFrom document source_revision h created_at 0 texts

/-- The chunk is a part of the revision. -/
structure KnowledgeChunk.PartOf (chunk : KnowledgeChunk) (revision : DocumentRevision) : Prop where
  tenant_id : chunk.tenant_id = revision.tenant_id
  collection_id : chunk.collection_id = revision.collection_id
  source_id : chunk.source_id = revision.source_id
  source_revision : chunk.source_revision = revision.source_revision
  provenance : chunk.provenance = revision.provenance
  acl_principals : chunk.acl_principals = revision.acl_principals

theorem buildFrom_ok {document : SourceDocument} {source_revision : Nat}
    {h : 0 < source_revision} {created_at : Decimal} {chunk_index : Nat} {texts : List String}
    {chunks : List KnowledgeChunk}
    (hok : buildFrom document source_revision h created_at chunk_index texts = .ok chunks) :
    chunks.length = texts.length ∧
      ∀ chunk ∈ chunks, chunk.PartOf (document.revision source_revision h created_at) := by
  induction texts generalizing chunk_index chunks with
  | nil =>
    obtain rfl := Except.ok.inj hok
    simp
  | cons text texts ih =>
    rw [buildFrom, bind_ok] at hok
    obtain ⟨chunk, hchunk, hok⟩ := hok
    rw [bind_ok] at hok
    obtain ⟨rest, hrest, hok⟩ := hok
    obtain rfl := pure_ok.mp hok
    obtain ⟨hlength, hparts⟩ := ih hrest
    unfold buildChunk at hchunk
    by_cases htext : text ≠ ""
    · rw [dif_pos htext] at hchunk
      obtain rfl := Except.ok.inj hchunk
      constructor
      · simp [hlength]
      · intro c hc
        rcases List.mem_cons.mp hc with rfl | hlater
        · exact ⟨rfl, rfl, rfl, rfl, rfl, rfl⟩
        · exact hparts c hlater
    · rw [dif_neg htext] at hchunk
      cases hchunk

theorem windows_ne_nil (size overlap : Nat) (h : overlap < size) (cs : List Char) :
    windows size overlap h cs ≠ [] := by
  rw [windows]
  by_cases hlast : cs.length ≤ size
  · simp [hlast]
  · simp [hlast]

theorem splitChunks_ne_nil {config : KnowledgeConfig} {text : String} {texts : List String}
    (hok : splitChunks config text = .ok texts) : texts ≠ [] := by
  unfold splitChunks at hok
  by_cases hempty : normalizeText text = ""
  · rw [if_pos hempty] at hok
    cases hok
  · rw [if_neg hempty] at hok
    by_cases hshort : (normalizeText text).length ≤ config.chunk_size
    · rw [if_pos hshort] at hok
      obtain rfl := Except.ok.inj hok
      simp
    · rw [if_neg hshort] at hok
      obtain rfl := Except.ok.inj hok
      simp [windows_ne_nil]

/-- A document has chunks, and every one is a part of its revision. -/
theorem buildChunks_ok {config : KnowledgeConfig} {document : SourceDocument}
    {source_revision : Nat} {h : 0 < source_revision} {created_at : Decimal}
    {chunks : List KnowledgeChunk}
    (hok : buildChunks config document source_revision h created_at = .ok chunks) :
    chunks ≠ [] ∧
      ∀ chunk ∈ chunks, chunk.PartOf (document.revision source_revision h created_at) := by
  unfold buildChunks at hok
  rw [bind_ok] at hok
  obtain ⟨texts, htexts, hok⟩ := hok
  obtain ⟨hlength, hparts⟩ := buildFrom_ok hok
  refine ⟨?_, hparts⟩
  rintro rfl
  exact splitChunks_ne_nil htexts (List.eq_nil_of_length_eq_zero hlength.symm)

/-! ## Section 3: Access and diversity -/

/-- `"*"`: everybody. -/
def wildcard : RequiredText := ⟨"*", by decide⟩

/-- `authorized`. -/
def authorized (chunk : KnowledgeChunk) (principal_id : RequiredText) : Bool :=
  principal_id ∈ chunk.acl_principals || wildcard ∈ chunk.acl_principals

/-- The first loop of `select_diverse`: a second chunk of a source waits while
    there is room.  The flag says that the limit was reached. -/
def chooseDiverse (limit : Nat) : List KnowledgeChunk → List RequiredText →
    List KnowledgeChunk → List KnowledgeChunk × Bool
  | chosen, _, [] => (chosen, false)
  | chosen, seen_sources, chunk :: chunks =>
    if chunk.source_id ∈ seen_sources ∧ chosen.length < limit then
      chooseDiverse limit chosen seen_sources chunks
    else
      let chosen' := chosen ++ [chunk]
      if limit ≤ chosen'.length then (chosen', true)
      else chooseDiverse limit chosen' (chunk.source_id :: seen_sources) chunks

/-- The second loop: fill up with the chunks that waited. -/
def fillUp (limit : Nat) : List KnowledgeChunk → List KnowledgeChunk → List KnowledgeChunk
  | chosen, [] => chosen
  | chosen, chunk :: chunks =>
    if chunk ∈ chosen then fillUp limit chosen chunks
    else
      let chosen' := chosen ++ [chunk]
      if limit ≤ chosen'.length then chosen' else fillUp limit chosen' chunks

/-- `select_diverse`. -/
def selectDiverse (chunks : List KnowledgeChunk) (limit : Nat) : List KnowledgeChunk :=
  match chooseDiverse limit [] [] chunks with
  | (chosen, true) => chosen
  | (chosen, false) => fillUp limit chosen chunks

theorem mem_chooseDiverse {limit : Nat} {chosen : List KnowledgeChunk}
    {seen_sources : List RequiredText} {chunks : List KnowledgeChunk} {c : KnowledgeChunk}
    (h : c ∈ (chooseDiverse limit chosen seen_sources chunks).1) : c ∈ chosen ∨ c ∈ chunks := by
  induction chunks generalizing chosen seen_sources with
  | nil => exact Or.inl h
  | cons chunk chunks ih =>
    rw [chooseDiverse] at h
    by_cases hwait : chunk.source_id ∈ seen_sources ∧ chosen.length < limit
    · rw [if_pos hwait] at h
      exact (ih h).imp_right (List.mem_cons_of_mem chunk)
    · rw [if_neg hwait] at h
      -- Either way `chunk` has just been chosen.
      have hchosen : c ∈ chosen ++ [chunk] ∨ c ∈ chunks := by
        by_cases hfull : limit ≤ (chosen ++ [chunk]).length
        · simp only [if_pos hfull] at h
          exact Or.inl h
        · simp only [if_neg hfull] at h
          exact ih h
      rcases hchosen with hmem | hmem
      · rcases List.mem_append.mp hmem with hold | hnew
        · exact Or.inl hold
        · exact Or.inr (List.mem_singleton.mp hnew ▸ List.mem_cons_self)
      · exact Or.inr (List.mem_cons_of_mem chunk hmem)

theorem mem_fillUp {limit : Nat} {chosen chunks : List KnowledgeChunk} {c : KnowledgeChunk}
    (h : c ∈ fillUp limit chosen chunks) : c ∈ chosen ∨ c ∈ chunks := by
  induction chunks generalizing chosen with
  | nil => exact Or.inl h
  | cons chunk chunks ih =>
    rw [fillUp] at h
    by_cases hold : chunk ∈ chosen
    · rw [if_pos hold] at h
      exact (ih h).imp_right (List.mem_cons_of_mem chunk)
    · rw [if_neg hold] at h
      have hchosen : c ∈ chosen ++ [chunk] ∨ c ∈ chunks := by
        by_cases hfull : limit ≤ (chosen ++ [chunk]).length
        · simp only [if_pos hfull] at h
          exact Or.inl h
        · simp only [if_neg hfull] at h
          exact ih h
      rcases hchosen with hmem | hmem
      · rcases List.mem_append.mp hmem with hkept | hnew
        · exact Or.inl hkept
        · exact Or.inr (List.mem_singleton.mp hnew ▸ List.mem_cons_self)
      · exact Or.inr (List.mem_cons_of_mem chunk hmem)

/-- Selection picks among the candidates. -/
theorem mem_selectDiverse {limit : Nat} {chunks : List KnowledgeChunk} {c : KnowledgeChunk}
    (h : c ∈ selectDiverse chunks limit) : c ∈ chunks := by
  unfold selectDiverse at h
  match hfirst : chooseDiverse limit [] [] chunks with
  | (chosen, true) =>
    rw [hfirst] at h
    have hmem : c ∈ (chooseDiverse limit [] [] chunks).1 := by
      rw [hfirst]
      exact h
    exact (mem_chooseDiverse hmem).resolve_left List.not_mem_nil
  | (chosen, false) =>
    rw [hfirst] at h
    rcases mem_fillUp h with hchosen | hmem
    · have hmem : c ∈ (chooseDiverse limit [] [] chunks).1 := by
        rw [hfirst]
        exact hchosen
      exact (mem_chooseDiverse hmem).resolve_left List.not_mem_nil
    · exact hmem

end CBrain.Knowledge
