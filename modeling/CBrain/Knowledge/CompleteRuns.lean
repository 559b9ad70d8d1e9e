import CBrain.Framework.Mutation
import CBrain.Knowledge.MemoryHistory

/-! # Complete publishes and tombstones

    `publish_revision` and `tombstone` of the in-memory store
    (`cbrain/knowledge/stores/memory.py`) statement by statement, as programs
    that keep what they wrote when they raise, and the pipeline calls
    (`cbrain/knowledge/ingestion.py`) that run them from beginning to end.

    A store reached by such calls is the one that the latest publication of
    each source describes, as long as no two chunks share an id.

    * `CollisionFree` : the ids of the published chunks tell them apart.
    * `Represents`    : the store is what the latest publications describe. -/

namespace CBrain.Knowledge

open InMemoryKnowledgeStore

/-! ## Section 1: Programs over the store -/

/-- `publish_revision`.  Each loop over a sequence is one write: nothing in its
    body can raise. -/
def publishSteps (p : Publication) : Mutation Exn InMemoryKnowledgeStore Nat := do
  let existing ← Mutation.read fun s => s.profiles.get? p.key.collection
  Mutation.raising (require (∀ profile ∈ existing, profile = p.profile)
    (knowledgeError "embedding profile is immutable after first revision"))
  Mutation.raising (require (∀ vector ∈ p.embeddings.values, vector.length = p.profile.dimension)
    (knowledgeError "embedding dimension mismatch"))
  let previous ← Mutation.read fun s => (s.live_chunks.get? p.key).getD []
  Mutation.write fun s =>
    { s with
      chunks := s.chunks.removeAll previous
      embeddings := s.embeddings.eraseAll previous }
  Mutation.write fun s => { s with revisions := s.revisions.set p.key p.revision }
  Mutation.write fun s => { s with chunks := s.chunks.putAll p.chunks }
  Mutation.write fun s =>
    { s with embeddings := s.embeddings.setAll Prod.fst Prod.snd p.embeddings.rows }
  Mutation.write fun s => { s with nodes := s.nodes.putAll p.nodes }
  Mutation.write fun s => { s with edges := s.edges.putAll p.edges }
  Mutation.write fun s => { s with live_chunks := s.live_chunks.set p.key p.chunk_ids }
  Mutation.write fun s => { s with profiles := s.profiles.set p.key.collection p.profile }
  let next_revision ← Mutation.read fun s => s.nextRevision p.key.collection
  Mutation.write fun s =>
    { s with
      collection_revisions := s.collection_revisions.set p.key.collection next_revision }
  return next_revision

/-- `tombstone`. -/
def tombstoneSteps (key : SourceKey) (created_at : JsonFloat) :
    Mutation Exn InMemoryKnowledgeStore Nat := do
  let current ← Mutation.read fun s => s.revisions.get? key
  match current with
  | none => Mutation.raising (.error (knowledgeError "source does not exist"))
  | some current =>
    let created_at ← Mutation.raising (finiteTimestamp created_at "created_at")
    Mutation.write fun s =>
      { s with revisions := s.revisions.set key (tombstoneOf key current created_at) }
    let next_revision ← Mutation.read fun s => s.nextRevision key.collection
    Mutation.write fun s =>
      { s with collection_revisions := s.collection_revisions.set key.collection next_revision }
    return next_revision

/-- What a program that wrote only where it returned leaves. -/
def settled {S α : Type} (s : S) : Raises (S × α) → Except Exn α × S
  | .ok (s', a) => (.ok a, s')
  | .error e => (.error e, s)

/-- `publish_revision` checks before it writes. -/
theorem exec_publishSteps (p : Publication) (store : InMemoryKnowledgeStore) :
    Mutation.exec (publishSteps p) store = settled store (store.publishRevision p) := by
  unfold publishSteps publishRevision
  rw [Mutation.exec_read_bind]
  by_cases hprofile : ∀ profile ∈ store.profiles.get? p.key.collection, profile = p.profile
  · rw [require_bind_pos hprofile, (require_ok (u := ())).mpr hprofile, Mutation.exec_ok_bind]
    by_cases hdimension : ∀ vector ∈ p.embeddings.values, vector.length = p.profile.dimension
    · rw [require_bind_pos hdimension, (require_ok (u := ())).mpr hdimension]
      rfl
    · rw [require_bind_neg hdimension, require_error.mpr ⟨hdimension, rfl⟩]
      rfl
  · rw [require_bind_neg hprofile, require_error.mpr ⟨hprofile, rfl⟩]
    rfl

theorem exec_tombstoneSteps (key : SourceKey) (created_at : JsonFloat)
    (store : InMemoryKnowledgeStore) :
    Mutation.exec (tombstoneSteps key created_at) store =
      settled store (store.tombstone key created_at) := by
  unfold tombstoneSteps tombstone
  rw [Mutation.exec_read_bind]
  cases store.revisions.get? key with
  | none => rfl
  | some current =>
    simp only
    cases finiteTimestamp created_at "created_at" with
    | error e => rfl
    | ok time => rfl

/-! ## Section 2: Calls of a pipeline -/

/-- A call of `ingest` or of `tombstone`, with what the clock returns. -/
inductive KnowledgeCall where
  | ingest (pipeline : IngestionPipeline) (document : SourceDocument) (created_at : JsonFloat)
  | tombstone (key : SourceKey) (created_at : JsonFloat)

namespace KnowledgeCall

/-- The collection of a call. -/
def collection : KnowledgeCall → CollectionKey
  | .ingest _ document _ => document.key.collection
  | .tombstone key _ => key.collection

/-- The call as a program over the store: what `ingest` does before its
    publication only reads. -/
def steps : KnowledgeCall → Mutation Exn InMemoryKnowledgeStore IngestionResult
  | .ingest pipeline document created_at => do
    let begun ← Mutation.read fun s => pipeline.begin publisher s document created_at
    match ← Mutation.raising begun with
    | .unchanged result => return result
    | .pending p =>
      let collection_revision ← publishSteps p.publication
      return p.result collection_revision
  | .tombstone key created_at => do
    let current ← Mutation.read fun s => s.getRevision key
    match current with
    | none => Mutation.raising (.error (knowledgeError "source does not exist"))
    | some current =>
      let collection_revision ← tombstoneSteps key created_at
      return {
        tenant_id := key.tenant_id
        collection_id := key.collection_id
        source_id := key.source_id
        source_revision := current.source_revision + 1
        collection_revision := collection_revision
        chunk_ids := []
        content_digest := current.content_digest
        idempotent := false
        published := true }

/-- The call on a store that it does not share. -/
def whole (call : KnowledgeCall) (store : InMemoryKnowledgeStore) :
    Raises (InMemoryKnowledgeStore × IngestionResult) :=
  match call with
  | .ingest pipeline document created_at => pipeline.ingest publisher store document created_at
  | .tombstone key created_at => tombstoneSource publisher store key created_at

/-- **A call writes all or nothing.** -/
theorem exec_steps (call : KnowledgeCall) (store : InMemoryKnowledgeStore) :
    Mutation.exec call.steps store = settled store (call.whole store) := by
  cases call with
  | ingest pipeline document created_at =>
    show Mutation.exec (Mutation.read _ >>= _) store =
      settled store (pipeline.ingest publisher store document created_at)
    rw [Mutation.exec_read_bind]
    unfold IngestionPipeline.ingest
    cases pipeline.begin publisher store document created_at with
    | error e => rfl
    | ok begun =>
      cases begun with
      | unchanged result => rfl
      | pending p =>
        rw [Mutation.exec_ok_bind, ok_bind]
        simp only
        rw [Mutation.exec_bind_pure, exec_publishSteps]
        unfold PendingIngest.finish
        show _ = settled store (store.publishRevision p.publication >>= _)
        cases store.publishRevision p.publication with
        | error e => rfl
        | ok written => rfl
  | tombstone key created_at =>
    show Mutation.exec (Mutation.read _ >>= _) store =
      settled store (tombstoneSource publisher store key created_at)
    rw [Mutation.exec_read_bind]
    unfold tombstoneSource
    have hread : publisher.get_revision store key = .ok (store.getRevision key) := rfl
    rw [hread, ok_bind]
    cases store.getRevision key with
    | none => rfl
    | some current =>
      simp only
      rw [Mutation.exec_bind_pure, exec_tombstoneSteps]
      show _ = settled store (store.tombstone key created_at >>= _)
      cases store.tombstone key created_at with
      | error e => rfl
      | ok written => rfl

/-- What the call publishes, if its publication is accepted. -/
def publication (call : KnowledgeCall) (store : InMemoryKnowledgeStore) : Option Publication :=
  match call with
  | .ingest pipeline document created_at =>
    match pipeline.begin publisher store document created_at with
    | .ok (.pending p) =>
      match store.publishRevision p.publication with
      | .ok _ => some p.publication
      | .error _ => none
    | _ => none
  | .tombstone _ _ => none

end KnowledgeCall

/-- The call changed its collection: it returned, and not an old receipt. -/
def changesCollection (collection : CollectionKey)
    (entry : KnowledgeCall × Except Exn IngestionResult) : Bool :=
  match entry.2 with
  | .ok result => !result.idempotent && entry.1.collection = collection
  | .error _ => false

/-- What calls make of an empty store, one after the other: their answers, and
    the publications that were accepted. -/
inductive CompleteRun : List (KnowledgeCall × Except Exn IngestionResult) → List Publication →
    InMemoryKnowledgeStore → Prop where
  | nil : CompleteRun [] [] empty
  | snoc {log : List (KnowledgeCall × Except Exn IngestionResult)} {ps : List Publication}
      {store : InMemoryKnowledgeStore} (call : KnowledgeCall) (h : CompleteRun log ps store) :
      CompleteRun (log ++ [(call, (Mutation.exec call.steps store).1)])
        (ps ++ (call.publication store).toList) (Mutation.exec call.steps store).2

/-! ## Section 3: What a call publishes -/

theorem buildFrom_indices {document : SourceDocument} {source_revision : Nat}
    {h : 0 < source_revision} {created_at : Decimal} {chunk_index : Nat} {texts : List String}
    {chunks : List KnowledgeChunk}
    (hok : buildFrom document source_revision h created_at chunk_index texts = .ok chunks) :
    chunks.map KnowledgeChunk.chunk_index = List.range' chunk_index texts.length := by
  induction texts generalizing chunk_index chunks with
  | nil =>
    obtain rfl := Except.ok.inj hok
    rfl
  | cons text texts ih =>
    rw [buildFrom, bind_ok] at hok
    obtain ⟨chunk, hchunk, hok⟩ := hok
    rw [bind_ok] at hok
    obtain ⟨rest, hrest, hok⟩ := hok
    obtain rfl := pure_ok.mp hok
    have hindex : chunk.chunk_index = chunk_index := by
      unfold buildChunk at hchunk
      split at hchunk
      · obtain rfl := Except.ok.inj hchunk
        rfl
      · cases hchunk
    rw [List.map_cons, ih hrest, hindex]
    rfl

theorem embedChunks_total {pipeline : IngestionPipeline} {chunks : List KnowledgeChunk}
    {profile : EmbeddingProfile} {embeddings : IngestionPipeline.Embeddings chunks}
    (h : pipeline.embedChunks chunks profile = .ok embeddings) :
    ∀ chunk_id ∈ chunks.map KnowledgeChunk.chunk_id, (embeddings.val.get? chunk_id).isSome := by
  unfold IngestionPipeline.embedChunks at h
  rw [bind_ok] at h
  obtain ⟨vectors, -, h⟩ := h
  rw [require_bind_ok] at h
  obtain ⟨-, h⟩ := h
  rw [require_bind_ok] at h
  obtain ⟨hlength, h⟩ := h
  obtain rfl := pure_ok.mp h
  intro chunk_id hmem
  -- Lists of one length are zipped to the end.
  have hfst : ((chunks.map KnowledgeChunk.chunk_id).zip vectors).map Prod.fst =
      chunks.map KnowledgeChunk.chunk_id := by
    apply List.map_fst_zip
    rw [List.length_map, hlength]
  rw [← hfst] at hmem
  obtain ⟨row, hrow, hkey⟩ := List.mem_map.mp hmem
  obtain ⟨_, -, -, hget⟩ := Table.get?_setAll_of_mem Prod.snd
    (Table.empty : Table String (List Decimal)) ⟨row, hrow, hkey⟩
  show ((Table.empty.setAll Prod.fst Prod.snd _).get? chunk_id).isSome
  rw [hget]
  rfl

/-- The chunks are numbered, and all of them are embedded. -/
structure Publication.Whole (p : Publication) : Prop where
  numbered : (p.chunks.map KnowledgeChunk.chunk_index).Nodup
  embeds : ∀ chunk_id ∈ p.chunk_ids, (p.embeddings.get? chunk_id).isSome

theorem whole_of_prepare {pipeline : IngestionPipeline} {document : SourceDocument}
    {existing : Option DocumentRevision} {profile : EmbeddingProfile} {created_at : JsonFloat}
    {p : PendingIngest} (h : pipeline.prepare document existing profile created_at = .ok p) :
    p.publication.Whole := by
  unfold IngestionPipeline.prepare at h
  rw [bind_ok] at h
  obtain ⟨time, -, h⟩ := h
  simp only at h
  split at h
  · cases h
  rename_i chunks hchunks
  rw [bind_ok] at h
  obtain ⟨embeddings, hembeddings, h⟩ := h
  rw [bind_ok] at h
  obtain ⟨graph, -, h⟩ := h
  obtain rfl := pure_ok.mp h
  constructor
  · unfold buildChunks at hchunks
    rw [bind_ok] at hchunks
    obtain ⟨texts, -, hfrom⟩ := hchunks
    show (chunks.map KnowledgeChunk.chunk_index).Nodup
    rw [buildFrom_indices hfrom]
    exact List.nodup_range'
  · exact embedChunks_total hembeddings

theorem whole_of_begin {pipeline : IngestionPipeline} {store : InMemoryKnowledgeStore}
    {document : SourceDocument} {created_at : JsonFloat} {p : PendingIngest}
    (h : pipeline.begin publisher store document created_at = .ok (.pending p)) :
    p.publication.Whole := by
  have hchanged : ∀ {existing}, pipeline.changed publisher store document existing created_at =
      .ok (.pending p) → p.publication.Whole := by
    intro existing hchanged
    unfold IngestionPipeline.changed at hchanged
    rw [bind_ok] at hchanged
    obtain ⟨published, -, hchanged⟩ := hchanged
    rw [bind_ok] at hchanged
    obtain ⟨profile, -, hchanged⟩ := hchanged
    rw [bind_ok] at hchanged
    obtain ⟨q, hq, hchanged⟩ := hchanged
    obtain rfl := Begun.pending.inj (pure_ok.mp hchanged)
    exact whole_of_prepare hq
  unfold IngestionPipeline.begin at h
  rw [require_bind_ok] at h
  obtain ⟨-, h⟩ := h
  rw [bind_ok] at h
  obtain ⟨existing, -, h⟩ := h
  cases existing with
  | none => exact hchanged h
  | some revision =>
    simp only at h
    split at h
    · rw [bind_ok] at h
      obtain ⟨result, -, h⟩ := h
      cases pure_ok.mp h
    · exact hchanged h

/-! ## Section 4: The store that the latest publications describe -/

/-- The latest publication of each source. -/
def latestOf (ps : List Publication) (key : SourceKey) : Option Publication :=
  (ps.filter fun p => p.key = key).getLast?

theorem latestOf_append (ps : List Publication) (p : Publication) (key : SourceKey) :
    latestOf (ps ++ [p]) key = if p.key = key then some p else latestOf ps key := by
  unfold latestOf
  rw [List.filter_append]
  by_cases h : p.key = key
  · have hone : [p].filter (fun p => p.key = key) = [p] := by simp [h]
    rw [if_pos h, hone, List.getLast?_concat]
  · have hnone : [p].filter (fun p => p.key = key) = [] := by simp [h]
    rw [if_neg h, hnone, List.append_nil]

theorem mem_of_latestOf {ps : List Publication} {key : SourceKey} {p : Publication}
    (h : latestOf ps key = some p) : p ∈ ps ∧ p.key = key := by
  obtain ⟨hmem, hkey⟩ := List.mem_filter.mp (List.mem_of_getLast? h)
  exact ⟨hmem, of_decide_eq_true hkey⟩

/-- Published chunks with one id are the same part of one revision. -/
def CollisionFree (ps : List Publication) : Prop :=
  ∀ c ∈ ps.flatMap Publication.chunks, ∀ c' ∈ ps.flatMap Publication.chunks,
    c.chunk_id = c'.chunk_id →
      c.key = c'.key ∧ c.source_revision = c'.source_revision ∧ c.chunk_index = c'.chunk_index

instance (ps : List Publication) : Decidable (CollisionFree ps) :=
  inferInstanceAs (Decidable (∀ c ∈ _, ∀ c' ∈ _, _ → _))

theorem CollisionFree.mono {ps qs : List Publication} (h : CollisionFree qs)
    (hsub : ∀ p ∈ ps, p ∈ qs) : CollisionFree ps := by
  have hchunks : ∀ c ∈ ps.flatMap Publication.chunks, c ∈ qs.flatMap Publication.chunks := by
    intro c hc
    obtain ⟨p, hp, hmem⟩ := List.mem_flatMap.mp hc
    exact List.mem_flatMap.mpr ⟨p, hsub p hp, hmem⟩
  exact fun c hc c' hc' => h c (hchunks c hc) c' (hchunks c' hc')

/-- Publications of different sources have no id in common. -/
theorem CollisionFree.apart {ps : List Publication} (h : CollisionFree ps) {p q : Publication}
    (hp : p ∈ ps) (hq : q ∈ ps) (hkey : p.key ≠ q.key) {chunk_id : String}
    (hmem : chunk_id ∈ p.chunk_ids) : chunk_id ∉ q.chunk_ids := by
  intro hmem'
  obtain ⟨c, hc, hid⟩ := List.mem_map.mp hmem
  obtain ⟨c', hc', hid'⟩ := List.mem_map.mp hmem'
  have hsame := h c (List.mem_flatMap.mpr ⟨p, hp, hc⟩) c' (List.mem_flatMap.mpr ⟨q, hq, hc'⟩)
    (hid.trans hid'.symm)
  rw [Publication.key_of_mem hc, Publication.key_of_mem hc'] at hsame
  exact hkey hsame.1

/-- The chunks of one publication have different ids. -/
theorem CollisionFree.eq_of_id {ps : List Publication} (h : CollisionFree ps) {p : Publication}
    (hp : p ∈ ps) (hwhole : p.Whole) {c c' : KnowledgeChunk} (hc : c ∈ p.chunks)
    (hc' : c' ∈ p.chunks) (hid : c.chunk_id = c'.chunk_id) : c = c' := by
  have hindex := (h c (List.mem_flatMap.mpr ⟨p, hp, hc⟩) c' (List.mem_flatMap.mpr ⟨p, hp, hc'⟩)
    hid).2.2
  exact List.inj_on_of_nodup_map hwhole.numbered hc hc' hindex

/-- The store is what the latest publications of the sources describe; what is
    not a publication of a source is its tombstone. -/
structure Represents (held : SourceKey → Option Publication) (store : InMemoryKnowledgeStore) :
    Prop where
  revision : ∀ key revision, store.revisions.get? key = some revision →
    ∃ p, held key = some p ∧ (revision = p.revision ∨ revision.tombstoned = true)
  chunks : ∀ chunk_id chunk, store.chunks.get? chunk_id = some chunk ↔
    ∃ p, held chunk.key = some p ∧ chunk ∈ p.chunks ∧ chunk.chunk_id = chunk_id
  listed : ∀ key, store.live_chunks.get? key = (held key).map Publication.chunk_ids
  embedded : ∀ key p, held key = some p → ∀ chunk_id ∈ p.chunk_ids, ∃ vector,
    store.embeddings.get? chunk_id = some vector ∧ vector.length = p.profile.dimension
  profile : ∀ key p, held key = some p → store.profiles.get? key.collection = some p.profile

theorem represents_empty : Represents (latestOf []) empty where
  revision := fun key revision h => by cases h
  chunks := by
    intro chunk_id chunk
    constructor
    · intro h
      cases h
    · rintro ⟨p, h, _⟩
      cases h
  listed := fun key => rfl
  embedded := fun key p h => by cases h
  profile := fun key p h => by cases h

/-- What an accepted publication has passed. -/
theorem checks_of_publish {store store' : InMemoryKnowledgeStore} {p : Publication} {n : Nat}
    (h : store.publishRevision p = .ok (store', n)) :
    (∀ profile ∈ store.profiles.get? p.key.collection, profile = p.profile) ∧
      ∀ vector ∈ p.embeddings.values, vector.length = p.profile.dimension := by
  unfold publishRevision at h
  rw [require_bind_ok] at h
  obtain ⟨hprofile, h⟩ := h
  rw [require_bind_ok] at h
  exact ⟨hprofile, h.1⟩

section publish
variable {ps : List Publication} {store : InMemoryKnowledgeStore} {p : Publication}

/-- The ids that a publication removes are those of its source. -/
theorem Represents.previous (hr : Represents (latestOf ps) store) {chunk_id : String} :
    chunk_id ∈ (store.live_chunks.get? p.key).getD [] ↔
      ∃ q, latestOf ps p.key = some q ∧ chunk_id ∈ q.chunk_ids := by
  rw [hr.listed]
  cases latestOf ps p.key with
  | none => simp
  | some q => simp

/-- A chunk of another source has another id than those removed or written. -/
theorem Represents.untouched (hr : Represents (latestOf ps) store)
    (hfree : CollisionFree (ps ++ [p])) {key : SourceKey} (hkey : key ≠ p.key) {q : Publication}
    (hq : latestOf ps key = some q) {chunk_id : String} (hmem : chunk_id ∈ q.chunk_ids) :
    chunk_id ∉ p.chunk_ids ∧ chunk_id ∉ (store.live_chunks.get? p.key).getD [] := by
  obtain ⟨hqs, rfl⟩ := mem_of_latestOf hq
  constructor
  · exact hfree.apart (List.mem_append_left _ hqs) (List.mem_append_right _ List.mem_cons_self)
      hkey hmem
  · rw [hr.previous]
    rintro ⟨old, hold, hold'⟩
    obtain ⟨holds, hsource⟩ := mem_of_latestOf hold
    exact hfree.apart (List.mem_append_left _ hqs) (List.mem_append_left _ holds)
      (fun heq => hkey (heq.trans hsource)) hmem hold'

/-- The chunks after a publication: its own, and those of the other sources. -/
theorem Represents.chunks_written (hr : Represents (latestOf ps) store)
    (hfree : CollisionFree (ps ++ [p])) (hwhole : p.Whole) (chunk_id : String)
    (chunk : KnowledgeChunk) :
    (store.written p).chunks.get? chunk_id = some chunk ↔
      ∃ q, latestOf (ps ++ [p]) chunk.key = some q ∧ chunk ∈ q.chunks ∧
        chunk.chunk_id = chunk_id := by
  have hp : p ∈ ps ++ [p] := List.mem_append_right _ List.mem_cons_self
  rw [latestOf_append]
  show ((store.chunks.removeAll _).putAll p.chunks).get? chunk_id = some chunk ↔ _
  by_cases hkey : p.key = chunk.key
  · rw [if_pos hkey]
    constructor
    · intro h
      rcases Registry.get?_putAll_cases h with ⟨hmem, hid⟩ | ⟨-, hold⟩
      · exact ⟨p, rfl, hmem, hid⟩
      · -- An old chunk of the source has been removed.
        exfalso
        rw [Registry.get?_removeAll] at hold
        split at hold
        · cases hold
        · rename_i hnot
          obtain ⟨q, hq, hmem, hid⟩ := (hr.chunks _ _).mp hold
          rw [← hkey] at hq
          exact hnot (hr.previous.mpr ⟨q, hq, hid ▸ List.mem_map_of_mem hmem⟩)
    · rintro ⟨q, hq, hmem, rfl⟩
      obtain rfl := Option.some.inj hq
      obtain ⟨other, hother, hid, hget⟩ := Registry.get?_putAll_of_mem
        (store.chunks.removeAll ((store.live_chunks.get? p.key).getD [])) hmem
      rw [hget, hfree.eq_of_id hp hwhole hother hmem hid]
  · rw [if_neg hkey]
    constructor
    · intro h
      rcases Registry.get?_putAll_cases h with ⟨hmem, -⟩ | ⟨-, hold⟩
      · exact absurd (Publication.key_of_mem hmem).symm hkey
      · rw [Registry.get?_removeAll] at hold
        split at hold
        · cases hold
        · exact (hr.chunks _ _).mp hold
    · rintro ⟨q, hq, hmem, rfl⟩
      obtain ⟨hnew, hold⟩ := hr.untouched hfree (Ne.symm hkey) hq (List.mem_map_of_mem hmem)
      rw [Registry.get?_putAll_of_not_mem, Registry.get?_removeAll, if_neg hold]
      · exact (hr.chunks _ _).mpr ⟨q, hq, hmem, rfl⟩
      · intro other hother heq
        exact hnew (heq ▸ List.mem_map_of_mem hother)

/-- The embeddings after a publication. -/
theorem Represents.embedded_written (hr : Represents (latestOf ps) store)
    (hfree : CollisionFree (ps ++ [p])) (hwhole : p.Whole)
    (hdimension : ∀ vector ∈ p.embeddings.values, vector.length = p.profile.dimension)
    {key : SourceKey} {q : Publication} (hq : latestOf (ps ++ [p]) key = some q)
    {chunk_id : String} (hmem : chunk_id ∈ q.chunk_ids) :
    ∃ vector, (store.written p).embeddings.get? chunk_id = some vector ∧
      vector.length = q.profile.dimension := by
  rw [latestOf_append] at hq
  show ∃ vector, ((store.embeddings.eraseAll _).setAll Prod.fst Prod.snd
    p.embeddings.rows).get? chunk_id = some vector ∧ _
  by_cases hkey : p.key = key
  · rw [if_pos hkey] at hq
    obtain rfl := Option.some.inj hq
    obtain ⟨vector, hvector⟩ := Option.isSome_iff_exists.mp (hwhole.embeds chunk_id hmem)
    obtain ⟨row, hrow, -, hget⟩ := Table.get?_setAll_of_mem Prod.snd
      (store.embeddings.eraseAll ((store.live_chunks.get? p.key).getD []))
      ⟨(chunk_id, vector), Table.mem_rows.mpr hvector, rfl⟩
    exact ⟨row.2, hget, hdimension row.2 (List.mem_map_of_mem hrow)⟩
  · rw [if_neg hkey] at hq
    obtain ⟨hnew, hold⟩ := hr.untouched hfree (Ne.symm hkey) hq hmem
    rw [Table.get?_setAll_of_not_mem, Table.get?_eraseAll, if_neg hold]
    · exact hr.embedded key q hq chunk_id hmem
    · intro row hrow heq
      apply hnew
      apply p.embedded
      have hget : p.embeddings.get? row.1 = some row.2 := Table.mem_rows.mp hrow
      rw [← heq, hget]
      rfl

/-- **Publication step.** -/
theorem Represents.publish (hr : Represents (latestOf ps) store)
    (hfree : CollisionFree (ps ++ [p])) (hwhole : p.Whole)
    {store' : InMemoryKnowledgeStore} {n : Nat}
    (h : store.publishRevision p = .ok (store', n)) : Represents (latestOf (ps ++ [p])) store' := by
  obtain ⟨hprofile, hdimension⟩ := checks_of_publish h
  obtain ⟨rfl, -⟩ := publishRevision_ok h
  constructor
  · intro key revision hrevision
    have hset : (store.written p).revisions.get? key =
        if key = p.key then some p.revision else store.revisions.get? key := Table.get?_set _ _ _ _
    rw [hset] at hrevision
    rw [latestOf_append]
    by_cases hkey : key = p.key
    · rw [if_pos hkey] at hrevision
      rw [if_pos hkey.symm]
      exact ⟨p, rfl, Or.inl (Option.some.inj hrevision).symm⟩
    · rw [if_neg hkey] at hrevision
      rw [if_neg (Ne.symm hkey)]
      exact hr.revision key revision hrevision
  · exact hr.chunks_written hfree hwhole
  · intro key
    have hset : (store.written p).live_chunks.get? key =
        if key = p.key then some p.chunk_ids else store.live_chunks.get? key :=
      Table.get?_set _ _ _ _
    rw [hset, latestOf_append]
    by_cases hkey : key = p.key
    · rw [if_pos hkey, if_pos hkey.symm]
      rfl
    · rw [if_neg hkey, if_neg (Ne.symm hkey)]
      exact hr.listed key
  · intro key q hq chunk_id hmem
    exact hr.embedded_written hfree hwhole hdimension hq hmem
  · intro key q hq
    have hset : (store.written p).profiles.get? key.collection =
        if key.collection = p.key.collection then some p.profile
        else store.profiles.get? key.collection := Table.get?_set _ _ _ _
    rw [hset]
    rw [latestOf_append] at hq
    by_cases hkey : p.key = key
    · rw [if_pos hkey] at hq
      obtain rfl := Option.some.inj hq
      rw [if_pos (congrArg SourceKey.collection hkey.symm)]
    · rw [if_neg hkey] at hq
      have hold := hr.profile key q hq
      by_cases hcollection : key.collection = p.key.collection
      · -- The profile of the collection did not change.
        rw [if_pos hcollection, ← hprofile q.profile (by rw [← hcollection, hold]; rfl)]
      · rw [if_neg hcollection]
        exact hold

end publish

/-- **Tombstone step**: the latest publication stays, and is no longer live. -/
theorem Represents.tombstone {held : SourceKey → Option Publication}
    {store store' : InMemoryKnowledgeStore} (hr : Represents held store) {key : SourceKey}
    {created_at : JsonFloat} {n : Nat} (h : store.tombstone key created_at = .ok (store', n)) :
    Represents held store' := by
  unfold InMemoryKnowledgeStore.tombstone at h
  cases hcurrent : store.revisions.get? key with
  | none =>
    rw [hcurrent] at h
    cases h
  | some current =>
    rw [hcurrent] at h
    simp only at h
    rw [bind_ok] at h
    obtain ⟨time, -, h⟩ := h
    obtain ⟨rfl, -⟩ := Prod.mk.inj (pure_ok.mp h)
    refine ⟨?_, hr.chunks, hr.listed, hr.embedded, hr.profile⟩
    intro key' revision hrevision
    have hset : (store.revisions.set key (tombstoneOf key current time)).get? key' =
        some revision := hrevision
    rw [Table.get?_set] at hset
    by_cases hkey : key' = key
    · rw [if_pos hkey] at hset
      obtain rfl := Option.some.inj hset
      obtain ⟨p, hp, -⟩ := hr.revision key current hcurrent
      exact ⟨p, hkey ▸ hp, Or.inr rfl⟩
    · rw [if_neg hkey] at hset
      exact hr.revision key' revision hset

/-! ## Section 5: Complete runs -/

/-- The ways a call can end. -/
inductive CallEnds (call : KnowledgeCall) (store : InMemoryKnowledgeStore) : Prop where
  | raises (e : Exn) (h : call.whole store = .error e) (hnone : call.publication store = none)
  | unchanged (result : IngestionResult) (h : call.whole store = .ok (store, result))
      (hold : result.idempotent = true) (hnone : call.publication store = none)
  | publishes (p : Publication) (store' : InMemoryKnowledgeStore) (result : IngestionResult)
      (n : Nat) (h : call.whole store = .ok (store', result))
      (hpublication : call.publication store = some p) (hkey : p.key.collection = call.collection)
      (hpublish : store.publishRevision p = .ok (store', n)) (hwhole : p.Whole)
      (hnew : result.idempotent = false)
  | tombstones (key : SourceKey) (created_at : JsonFloat) (store' : InMemoryKnowledgeStore)
      (result : IngestionResult) (n : Nat) (h : call.whole store = .ok (store', result))
      (hkey : key.collection = call.collection)
      (htombstone : store.tombstone key created_at = .ok (store', n))
      (hnew : result.idempotent = false) (hnone : call.publication store = none)

theorem callEnds_ingest (pipeline : IngestionPipeline) (document : SourceDocument)
    (created_at : JsonFloat) (store : InMemoryKnowledgeStore) :
    CallEnds (.ingest pipeline document created_at) store := by
  cases hbegin : pipeline.begin publisher store document created_at with
  | error e =>
    apply CallEnds.raises e
    · show pipeline.ingest publisher store document created_at = _
      unfold IngestionPipeline.ingest
      rw [hbegin]
      rfl
    · unfold KnowledgeCall.publication
      simp only [hbegin]
  | ok begun =>
    cases begun with
    | unchanged result =>
      have hingest : pipeline.ingest publisher store document created_at = .ok (store, result) := by
        unfold IngestionPipeline.ingest
        rw [hbegin]
        rfl
      obtain ⟨_, -, hcase⟩ := begin_ok hbegin
      rcases hcase with ⟨_, _, -, -, hold, hbegun⟩ | ⟨-, _, hbegun, -, -⟩
      · obtain rfl := Begun.unchanged.inj hbegun
        refine .unchanged result hingest (unchangedResult_idempotent hold) ?_
        unfold KnowledgeCall.publication
        simp only [hbegin]
      · cases hbegun
    | pending p =>
      have hingest : pipeline.ingest publisher store document created_at =
          p.finish publisher store := by
        unfold IngestionPipeline.ingest
        rw [hbegin]
        rfl
      cases hpublish : store.publishRevision p.publication with
      | error e =>
        apply CallEnds.raises e
        · show pipeline.ingest publisher store document created_at = _
          rw [hingest]
          unfold PendingIngest.finish
          show store.publishRevision p.publication >>= _ = _
          rw [hpublish]
          rfl
        · unfold KnowledgeCall.publication
          simp only [hbegin, hpublish]
      | ok written =>
        obtain ⟨store', n⟩ := written
        refine .publishes p.publication store' (p.result n) n ?_ ?_ ?_ hpublish
          (whole_of_begin hbegin) rfl
        · show pipeline.ingest publisher store document created_at = _
          rw [hingest]
          unfold PendingIngest.finish
          show store.publishRevision p.publication >>= _ = _
          rw [hpublish]
          rfl
        · unfold KnowledgeCall.publication
          simp only [hbegin, hpublish]
        · show p.publication.document.key.collection = document.key.collection
          rw [(begin_pending hbegin).2.1]

/-- A tombstone that is put is no old receipt. -/
theorem tombstoneSource_new {store store' : InMemoryKnowledgeStore} {key : SourceKey}
    {created_at : JsonFloat} {result : IngestionResult}
    (h : tombstoneSource publisher store key created_at = .ok (store', result)) :
    result.idempotent = false := by
  unfold tombstoneSource at h
  rw [bind_ok] at h
  obtain ⟨current, -, h⟩ := h
  cases current with
  | none => cases h
  | some current =>
    simp only at h
    rw [bind_ok] at h
    obtain ⟨written, -, h⟩ := h
    obtain ⟨-, rfl⟩ := Prod.mk.inj (pure_ok.mp h)
    rfl

theorem callEnds_tombstone (key : SourceKey) (created_at : JsonFloat)
    (store : InMemoryKnowledgeStore) : CallEnds (.tombstone key created_at) store := by
  cases hcall : tombstoneSource publisher store key created_at with
  | error e => exact .raises e hcall rfl
  | ok answer =>
    obtain ⟨store', result⟩ := answer
    obtain ⟨n, htombstone⟩ := tombstone_of_source hcall
    exact .tombstones key created_at store' result n hcall rfl htombstone
      (tombstoneSource_new hcall) rfl

theorem callEnds (call : KnowledgeCall) (store : InMemoryKnowledgeStore) : CallEnds call store := by
  cases call with
  | ingest pipeline document created_at => exact callEnds_ingest pipeline document created_at store
  | tombstone key created_at => exact callEnds_tombstone key created_at store

/-- **Run lemma**: the store is what the latest publications describe. -/
theorem CompleteRun.represents {log : List (KnowledgeCall × Except Exn IngestionResult)}
    {ps : List Publication} {store : InMemoryKnowledgeStore} (h : CompleteRun log ps store)
    (hfree : CollisionFree ps) : Represents (latestOf ps) store := by
  induction h with
  | nil => exact represents_empty
  | @snoc log ps store call _ ih =>
    have hbefore := ih (hfree.mono fun p hp => List.mem_append_left _ hp)
    rw [KnowledgeCall.exec_steps]
    cases callEnds call store with
    | raises e hwhole hnone =>
      rw [hwhole, hnone]
      simpa [settled] using hbefore
    | unchanged result hwhole hold hnone =>
      rw [hwhole, hnone]
      simpa [settled] using hbefore
    | publishes p store' result n hcall hpublication hkey hpublish hwhole hnew =>
      rw [hpublication] at hfree
      rw [hcall, hpublication]
      exact hbefore.publish hfree hwhole hpublish
    | tombstones key created_at store' result n hwhole hkey htombstone hnew hnone =>
      rw [hwhole, hnone]
      simpa [settled] using hbefore.tombstone htombstone

/-- **Run lemma**: the revision of a collection counts its changes. -/
theorem CompleteRun.counts {log : List (KnowledgeCall × Except Exn IngestionResult)}
    {ps : List Publication} {store : InMemoryKnowledgeStore} (h : CompleteRun log ps store)
    (collection : CollectionKey) :
    store.collectionRevision collection = log.countP (changesCollection collection) := by
  induction h with
  | nil => rfl
  | @snoc log ps store call _ ih =>
    rw [List.countP_append, ← ih, KnowledgeCall.exec_steps]
    cases callEnds call store with
    | raises e hwhole hnone =>
      rw [hwhole]
      simp [settled, changesCollection]
    | unchanged result hwhole hold hnone =>
      rw [hwhole]
      simp [settled, changesCollection, hold]
    | publishes p store' result n hcall hpublication hkey hpublish hwhole hnew =>
      obtain ⟨rfl, -⟩ := publishRevision_ok hpublish
      have hset := @collectionRevision_set store (store.written p) _ rfl collection
      rw [hcall, hkey] at *
      simp [settled, changesCollection, hnew, hset]
    | tombstones key created_at store' result n hwhole hkey htombstone hnew hnone =>
      obtain ⟨_, _, -, -, hrevisions, -⟩ := tombstone_ok htombstone
      have hset := collectionRevision_set hrevisions collection
      rw [hwhole, hkey] at *
      simp [settled, changesCollection, hnew, hset]

/-- **The joint invariant** of the store after any sequence of complete calls,
    if the ids of the published chunks tell them apart: the live chunks of a
    source are those of its latest revision, and none if that is a tombstone;
    each live chunk has an embedding of the dimension of the collection's
    profile; the revision of a collection is the number of accepted publishes
    and tombstones; and a call that raises leaves the store as it is. -/
theorem store_joint_invariant {log : List (KnowledgeCall × Except Exn IngestionResult)}
    {ps : List Publication} {store : InMemoryKnowledgeStore} (h : CompleteRun log ps store)
    (hfree : CollisionFree ps) :
    (∀ key revision, store.getRevision key = some revision → revision.tombstoned = false →
      ∃ p, latestOf ps key = some p ∧ p.revision = revision ∧ ∀ chunk_id chunk,
        (store.findChunk chunk_id = some chunk ∧ chunk.key = key) ↔
          (chunk ∈ p.chunks ∧ chunk.chunk_id = chunk_id)) ∧
    (∀ key, (∀ revision, store.getRevision key = some revision → revision.tombstoned = true) →
      ∀ chunk_id chunk, store.findChunk chunk_id = some chunk → chunk.key ≠ key) ∧
    (∀ chunk_id chunk, store.findChunk chunk_id = some chunk → ∃ vector profile,
      store.embeddings.get? chunk_id = some vector ∧
      store.embeddingProfile chunk.key.collection = some profile ∧
      vector.length = profile.dimension) ∧
    (∀ collection,
      store.collectionRevision collection = log.countP (changesCollection collection)) ∧
    ∀ (call : KnowledgeCall) e, (Mutation.exec call.steps store).1 = .error e →
      (Mutation.exec call.steps store).2 = store := by
  have hr := h.represents hfree
  refine ⟨?_, ?_, ?_, h.counts, ?_⟩
  · intro key revision hrevision hlive
    obtain ⟨p, hp, hcase⟩ := hr.revision key revision hrevision
    have hsame : revision = p.revision := by
      rcases hcase with heq | htombstoned
      · exact heq
      · rw [htombstoned] at hlive
        cases hlive
    obtain ⟨-, hkey⟩ := mem_of_latestOf hp
    refine ⟨p, hp, hsame.symm, ?_⟩
    intro chunk_id chunk
    rw [findChunk_eq_some, hr.chunks]
    constructor
    · rintro ⟨⟨⟨q, hq, hmem, hid⟩, -⟩, rfl⟩
      obtain rfl := Option.some.inj (hp.symm.trans hq)
      exact ⟨hmem, hid⟩
    · rintro ⟨hmem, hid⟩
      have hsource : chunk.key = key := (Publication.key_of_mem hmem).trans hkey
      rw [hsource]
      exact ⟨⟨⟨p, hp, hmem, hid⟩, revision, hrevision, hlive⟩, rfl⟩
  · rintro key hall chunk_id chunk hfind rfl
    obtain ⟨-, revision, hrevision, hlive⟩ := findChunk_eq_some.mp hfind
    rw [hall revision hrevision] at hlive
    cases hlive
  · intro chunk_id chunk hfind
    obtain ⟨hget, -⟩ := findChunk_eq_some.mp hfind
    obtain ⟨p, hp, hmem, rfl⟩ := (hr.chunks chunk_id chunk).mp hget
    obtain ⟨vector, hvector, hlength⟩ :=
      hr.embedded chunk.key p hp chunk.chunk_id (List.mem_map_of_mem hmem)
    exact ⟨vector, p.profile, hvector, hr.profile chunk.key p hp, hlength⟩
  · intro call e herror
    rw [KnowledgeCall.exec_steps] at herror ⊢
    cases hwhole : call.whole store with
    | error e => rfl
    | ok written =>
      rw [hwhole] at herror
      cases herror

/-- The FAQ is ingested, and its source is tombstoned. -/
def faqCall : KnowledgeCall := .ingest opsPipeline faqDocument (.finite (whole 1))

def retireCall : KnowledgeCall := .tombstone faqDocument.key (.finite (whole 2))

def retiredStore : InMemoryKnowledgeStore :=
  (Mutation.exec retireCall.steps (Mutation.exec faqCall.steps empty).2).2

theorem retiredStore_eq :
    (retiredStore.getRevision faqDocument.key).map DocumentRevision.tombstoned = some true ∧
      retiredStore.chunks.values.map KnowledgeChunk.key = [faqDocument.key] := by
  decide +kernel

/-- The store keeps the chunk of the tombstoned source, and finds none. -/
theorem store_joint_invariant_retired :
    retiredStore.chunks.values.map KnowledgeChunk.key = [faqDocument.key] ∧
      ∀ chunk_id chunk, retiredStore.findChunk chunk_id = some chunk →
        chunk.key ≠ faqDocument.key := by
  have hrun := (CompleteRun.nil.snoc faqCall).snoc retireCall
  have hfree : CollisionFree (([] ++ (faqCall.publication empty).toList) ++
      (retireCall.publication (Mutation.exec faqCall.steps empty).2).toList) := by
    decide +kernel
  obtain ⟨hrevision, hchunks⟩ := retiredStore_eq
  obtain ⟨revision, hget, htombstoned⟩ := Option.map_eq_some_iff.mp hrevision
  refine ⟨hchunks, (store_joint_invariant hrun hfree).2.1 faqDocument.key ?_⟩
  intro other hother
  obtain rfl := Option.some.inj (hget.symm.trans hother)
  exact htombstoned

end CBrain.Knowledge
