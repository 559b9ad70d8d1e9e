import CBrain.Knowledge.PostgresWrites

/-! # Histories of the PostgreSQL store

    What any interleaving of ingests, tombstones and graph writes keeps of the
    tables: the numbers of a source have no gap, its chunk rows carry the
    access list of their revision, and no pending ingest has read a number
    that the source does not hold yet.

    The keys of the documents' rows do the rest: a publication of a stale
    number meets a row that is already there. -/

namespace CBrain.Knowledge

namespace PostgresKnowledgeStore

variable {store store' : PostgresKnowledgeStore}

/-! ## Section 1: The latest revision -/

theorem mem_revisions {key : SourceKey} {revision : DocumentRevision} :
    revision ∈ store.documents.values.filter (fun revision => revision.key = key) ↔
      store.documents.get? ⟨key, revision.source_revision⟩ = some revision := by
  rw [List.mem_filter, Registry.mem_values, decide_eq_true_eq]
  constructor
  · rintro ⟨hget, rfl⟩
    exact hget
  · intro hget
    have hrow : revision.rowKey = ⟨key, revision.source_revision⟩ := Registry.key_of_get? hget
    have hkey : revision.key = key := congrArg RevisionKey.source hrow
    rw [hrow]
    exact ⟨hget, hkey⟩

theorem getRevision_eq_none {key : SourceKey} :
    store.getRevision key = none ↔ ∀ n, store.documents.get? ⟨key, n⟩ = none := by
  unfold getRevision
  rw [List.argmax_eq_none, List.eq_nil_iff_forall_not_mem]
  constructor
  · intro hnone n
    cases hrow : store.documents.get? ⟨key, n⟩ with
    | none => rfl
    | some revision =>
      have hn : revision.rowKey = ⟨key, n⟩ := Registry.key_of_get? hrow
      obtain rfl : revision.source_revision = n := congrArg RevisionKey.source_revision hn
      exact absurd (mem_revisions.mpr hrow) (hnone revision)
  · intro hnone revision hmem
    rw [mem_revisions, hnone] at hmem
    cases hmem

/-- The latest revision is the row with the greatest number. -/
theorem getRevision_eq_some {key : SourceKey} {revision : DocumentRevision} :
    store.getRevision key = some revision ↔
      store.documents.get? ⟨key, revision.source_revision⟩ = some revision ∧
        ∀ n, (store.documents.get? ⟨key, n⟩).isSome = true → n ≤ revision.source_revision := by
  have hgreatest : ∀ {latest}, store.getRevision key = some latest →
      store.documents.get? ⟨key, latest.source_revision⟩ = some latest ∧
        ∀ n, (store.documents.get? ⟨key, n⟩).isSome = true → n ≤ latest.source_revision := by
    intro latest h
    refine ⟨mem_revisions.mp (List.argmax_mem h), ?_⟩
    intro n hsome
    obtain ⟨row, hrow⟩ := Option.isSome_iff_exists.mp hsome
    have hn : row.rowKey = ⟨key, n⟩ := Registry.key_of_get? hrow
    obtain rfl : row.source_revision = n := congrArg RevisionKey.source_revision hn
    exact List.le_of_mem_argmax (mem_revisions.mpr hrow) h
  constructor
  · exact hgreatest
  · rintro ⟨hget, hall⟩
    cases hlatest : store.getRevision key with
    | none =>
      rw [getRevision_eq_none.mp hlatest] at hget
      cases hget
    | some latest =>
      -- Both are greatest, so they have the same number.
      obtain ⟨hget', hall'⟩ := hgreatest hlatest
      have hle := hall latest.source_revision (by rw [hget']; rfl)
      have hge := hall' revision.source_revision (by rw [hget]; rfl)
      have hsame : revision.source_revision = latest.source_revision := by omega
      rw [hsame, hget'] at hget
      exact hget

theorem key_of_getRevision {key : SourceKey} {revision : DocumentRevision}
    (h : store.getRevision key = some revision) : revision.key = key := by
  have hrow : revision.rowKey = ⟨key, revision.source_revision⟩ :=
    Registry.key_of_get? (getRevision_eq_some.mp h).1
  exact congrArg RevisionKey.source hrow

/-- The number that a source holds. -/
def heldNumber (store : PostgresKnowledgeStore) (key : SourceKey) : Nat :=
  match store.getRevision key with
  | none => 0
  | some revision => revision.source_revision

theorem le_heldNumber {key : SourceKey} {n : Nat}
    (h : (store.documents.get? ⟨key, n⟩).isSome = true) : n ≤ store.heldNumber key := by
  unfold heldNumber
  cases hlatest : store.getRevision key with
  | none =>
    rw [getRevision_eq_none.mp hlatest] at h
    cases h
  | some revision => exact (getRevision_eq_some.mp hlatest).2 n h

/-- A row with a greater number than all of its source becomes the latest. -/
theorem getRevision_put {row : DocumentRevision}
    (hdocuments : store'.documents = store.documents.put row)
    (hlater : store.heldNumber row.key < row.source_revision) (key : SourceKey) :
    store'.getRevision key = if key = row.key then some row else store.getRevision key := by
  have hget : ∀ k, store'.documents.get? k =
      if k = row.rowKey then some row else store.documents.get? k := by
    intro k
    rw [hdocuments]
    exact Registry.get?_put _ _ _
  by_cases hkey : key = row.key
  · rw [if_pos hkey, getRevision_eq_some, hget, if_pos (by rw [hkey]; rfl)]
    refine ⟨rfl, ?_⟩
    intro n hsome
    rw [hget] at hsome
    by_cases hn : (⟨key, n⟩ : RevisionKey) = row.rowKey
    · exact (congrArg RevisionKey.source_revision hn).le
    · rw [if_neg hn, hkey] at hsome
      have := le_heldNumber hsome
      omega
  · rw [if_neg hkey]
    have hother : ∀ n, store'.documents.get? ⟨key, n⟩ = store.documents.get? ⟨key, n⟩ := by
      intro n
      rw [hget, if_neg]
      intro heq
      exact hkey (congrArg RevisionKey.source heq)
    cases hlatest : store.getRevision key with
    | none =>
      rw [getRevision_eq_none] at hlatest ⊢
      intro n
      rw [hother]
      exact hlatest n
    | some revision =>
      rw [getRevision_eq_some] at hlatest ⊢
      simp only [hother]
      exact hlatest

theorem heldNumber_put {row : DocumentRevision}
    (hdocuments : store'.documents = store.documents.put row)
    (hlater : store.heldNumber row.key < row.source_revision) (key : SourceKey) :
    store'.heldNumber key = if key = row.key then row.source_revision else store.heldNumber key := by
  unfold heldNumber
  rw [getRevision_put hdocuments hlater]
  by_cases hkey : key = row.key
  · rw [if_pos hkey, if_pos hkey]
  · rw [if_neg hkey, if_neg hkey]

theorem getRevision_congr (h : store'.documents = store.documents) (key : SourceKey) :
    store'.getRevision key = store.getRevision key := by
  unfold getRevision
  rw [h]

theorem heldNumber_congr (h : store'.documents = store.documents) (key : SourceKey) :
    store'.heldNumber key = store.heldNumber key := by
  unfold heldNumber
  rw [getRevision_congr h]

/-! ## Section 2: The invariant -/

/-- The tables fit together. -/
structure Consistent (store : PostgresKnowledgeStore) : Prop where
  /-- The numbers of a source have no gap. -/
  numbered : ∀ {key n}, 0 < n → n ≤ store.heldNumber key →
    (store.documents.get? ⟨key, n⟩).isSome = true
  /-- A chunk's row carries what the row of its revision says. -/
  parts : ∀ {chunk_id chunk}, store.chunks.get? chunk_id = some chunk →
    ∃ revision, store.documents.get? chunk.revisionKey = some revision ∧
      revision.tombstoned = false ∧ chunk.PartOf revision
  /-- A revision that is not a tombstone has chunks. -/
  filled : ∀ {k revision}, store.documents.get? k = some revision → revision.tombstoned = false →
    ∃ chunk_id chunk, store.chunks.get? chunk_id = some chunk ∧ chunk.revisionKey = k

theorem consistent_empty : empty.Consistent where
  numbered := by
    intro key n hpos hle
    have hzero : empty.heldNumber key = 0 := rfl
    omega
  parts h := by cases h
  filled h := by cases h

/-- The tables are as consistent as the documents and the chunks. -/
theorem Consistent.congr (hc : store.Consistent) (hdocuments : store'.documents = store.documents)
    (hchunks : store'.chunks = store.chunks) : store'.Consistent := by
  constructor
  · intro key n hpos hle
    rw [heldNumber_congr hdocuments] at hle
    rw [hdocuments]
    exact hc.numbered hpos hle
  · intro chunk_id chunk hget
    rw [hchunks] at hget
    rw [hdocuments]
    exact hc.parts hget
  · intro k revision hget hlive
    rw [hdocuments] at hget
    rw [hchunks]
    exact hc.filled hget hlive

/-- The next number fills no gap and leaves none. -/
theorem numbered_put (hc : store.Consistent) {row : DocumentRevision}
    (hdocuments : store'.documents = store.documents.put row)
    (hnext : row.source_revision = store.heldNumber row.key + 1) {key : SourceKey} {n : Nat}
    (hpos : 0 < n) (hle : n ≤ store'.heldNumber key) :
    (store'.documents.get? ⟨key, n⟩).isSome = true := by
  rw [heldNumber_put hdocuments (by omega)] at hle
  rw [hdocuments, Registry.get?_put]
  by_cases hrow : (⟨key, n⟩ : RevisionKey) = row.rowKey
  · rw [if_pos hrow]
    rfl
  · rw [if_neg hrow]
    apply hc.numbered hpos
    by_cases hkey : key = row.key
    · have hn : n ≠ row.source_revision := by
        intro heq
        apply hrow
        rw [hkey, heq]
        rfl
      rw [if_pos hkey] at hle
      rw [hkey]
      omega
    · rw [if_neg hkey] at hle
      exact hle

theorem revisionKey_of_part {chunk : KnowledgeChunk} {revision : DocumentRevision}
    (h : chunk.PartOf revision) : chunk.revisionKey = revision.rowKey := by
  unfold KnowledgeChunk.revisionKey KnowledgeChunk.key DocumentRevision.rowKey DocumentRevision.key
  rw [h.tenant_id, h.collection_id, h.source_id, h.source_revision]

theorem part_at {chunk : KnowledgeChunk} {revision : DocumentRevision} (h : chunk.PartOf revision)
    (time time' : Decimal) : (chunk.at time).PartOf (revision.at time') :=
  ⟨h.tenant_id, h.collection_id, h.source_id, h.source_revision, h.provenance, h.acl_principals⟩

theorem Consistent.wrote (hc : store.Consistent) {p : Publication} (hw : Wrote store store' p)
    (hnext : p.revision.source_revision = store.heldNumber p.revision.key + 1) :
    store'.Consistent := by
  obtain ⟨time, hdocuments⟩ := hw.documents
  have hget : ∀ k, store'.documents.get? k =
      if k = p.revision.rowKey then some (p.revision.at time) else store.documents.get? k := by
    intro k
    rw [hdocuments]
    exact Registry.get?_put _ _ _
  constructor
  · intro key n hpos hle
    exact numbered_put hc hdocuments hnext hpos hle
  · intro chunk_id chunk hchunk
    rcases hw.chunks.only hchunk with hold | ⟨new, hnew, time', -, rfl⟩
    · obtain ⟨revision, hrevision, hlive, hpart⟩ := hc.parts hold
      refine ⟨revision, ?_, hlive, hpart⟩
      rw [hget, if_neg]
      · exact hrevision
      · -- The published row was not there before.
        intro heq
        rw [heq, hw.document_fresh] at hrevision
        cases hrevision
    · have hpart := p.parts new hnew
      refine ⟨p.revision.at time, ?_, p.describes.tombstoned, part_at hpart time' time⟩
      have hkey : new.revisionKey = p.revision.rowKey := revisionKey_of_part hpart
      rw [hget, if_pos]
      exact hkey
  · intro k revision hrevision hlive
    rw [hget] at hrevision
    by_cases hk : k = p.revision.rowKey
    · obtain ⟨chunk, hchunk⟩ := List.exists_mem_of_ne_nil _ p.chunks_ne
      obtain ⟨time', hadded⟩ := hw.chunks.added chunk hchunk
      have hkey : chunk.revisionKey = p.revision.rowKey :=
        revisionKey_of_part (p.parts chunk hchunk)
      refine ⟨_, _, hadded, ?_⟩
      rw [hk]
      exact hkey
    · rw [if_neg hk] at hrevision
      obtain ⟨chunk_id, chunk, hchunk, hkey⟩ := hc.filled hrevision hlive
      exact ⟨chunk_id, chunk, hw.chunks.kept hchunk, hkey⟩

theorem rowKey_tombstoneOf {key : SourceKey} {current : DocumentRevision} (time : Decimal)
    (h : store.getRevision key = some current) :
    (tombstoneOf current time).key = key ∧
      (tombstoneOf current time).source_revision = store.heldNumber key + 1 := by
  constructor
  · have hkey : current.key = key := key_of_getRevision h
    exact hkey
  · unfold heldNumber
    rw [h]
    rfl

theorem Consistent.tombstone (hc : store.Consistent) {key : SourceKey} {created_at : JsonFloat}
    {n : Nat} (h : store.tombstone key created_at = .ok (store', n)) : store'.Consistent := by
  obtain ⟨current, time, hcurrent, hfresh, ⟨stored, hdocuments⟩, hchunks, -⟩ := tombstone_ok h
  obtain ⟨hkey, hnumber⟩ := rowKey_tombstoneOf time hcurrent
  have hget : ∀ k, store'.documents.get? k =
      if k = (tombstoneOf current time).rowKey then some ((tombstoneOf current time).at stored)
      else store.documents.get? k := by
    intro k
    rw [hdocuments]
    exact Registry.get?_put _ _ _
  constructor
  · intro source m hpos hle
    refine numbered_put hc hdocuments ?_ hpos hle
    show (tombstoneOf current time).source_revision =
      store.heldNumber (tombstoneOf current time).key + 1
    rw [hkey]
    exact hnumber
  · intro chunk_id chunk hchunk
    rw [hchunks] at hchunk
    obtain ⟨revision, hrevision, hlive, hpart⟩ := hc.parts hchunk
    refine ⟨revision, ?_, hlive, hpart⟩
    rw [hget, if_neg]
    · exact hrevision
    · intro heq
      rw [heq, hfresh] at hrevision
      cases hrevision
  · intro k revision hrevision hlive
    rw [hget] at hrevision
    by_cases hk : k = (tombstoneOf current time).rowKey
    · rw [if_pos hk] at hrevision
      obtain rfl := Option.some.inj hrevision
      cases hlive
    · rw [if_neg hk] at hrevision
      rw [hchunks]
      exact hc.filled hrevision hlive

/-! ## Section 3: Runs -/

/-- The revision of a publication is its source's. -/
theorem key_of_publication (p : Publication) : p.revision.key = p.key := by
  unfold DocumentRevision.key Publication.key SourceDocument.key
  rw [p.describes.tenant_id, p.describes.collection_id, p.describes.source_id]

/-- A pending ingest has read a row that the source holds. -/
structure ReadsHeld (store : PostgresKnowledgeStore) (p : PendingIngest) : Prop where
  number : nextNumber p.existing ≤ store.heldNumber p.publication.key + 1
  row : ∀ existing ∈ p.existing,
    store.documents.get? ⟨p.publication.key, existing.source_revision⟩ = some existing

/-- What every reached state has. -/
structure Sound (st : IngestState PostgresKnowledgeStore) : Prop where
  consistent : st.store.Consistent
  pending : ∀ p ∈ st.pending, ReadsHeld st.store p

/-- A publication that is written has the number after the held one: the keys
    of the documents' rows refuse the numbers up to it. -/
theorem next_of_wrote (hc : store.Consistent) {p : PendingIngest} (hread : ReadsHeld store p)
    (hw : Wrote store store' p.publication) :
    p.publication.revision.source_revision = store.heldNumber p.publication.revision.key + 1 := by
  have hnumber := p.numbered
  have hkey := key_of_publication p.publication
  have hpos := p.publication.revision.source_revision_pos
  have hle := hread.number
  rw [hkey]
  by_contra hne
  have hheld : p.publication.revision.source_revision ≤ store.heldNumber p.publication.key := by
    omega
  have htaken := hc.numbered hpos hheld
  have hfresh : store.documents.get? ⟨p.publication.key,
      p.publication.revision.source_revision⟩ = none := by
    rw [← hkey]
    exact hw.document_fresh
  rw [hfresh] at htaken
  cases htaken

/-- The two ways in which a publication is accepted, in a reached state. -/
theorem Sound.finish_cases {st : IngestState PostgresKnowledgeStore} (hs : Sound st)
    {p : PendingIngest} (hpending : p ∈ st.pending) {result : IngestionResult}
    (h : p.finish publisher st.store = .ok (store', result)) :
    (st.store.holdsContent p.publication.key p.publication.revision.content_digest = true ∧
      store' = st.store.withCollection p.publication.key.collection p.publication.profile) ∨
    (st.store.holdsContent p.publication.key p.publication.revision.content_digest = false ∧
      Wrote (st.store.withCollection p.publication.key.collection p.publication.profile) store'
        p.publication ∧
      p.publication.revision.source_revision = st.store.heldNumber p.publication.key + 1) := by
  obtain ⟨n, hpublish, -⟩ := publish_of_finish h
  rcases publishRevision_ok hpublish with hsame | ⟨hnot, hw⟩
  · exact Or.inl hsame
  · refine Or.inr ⟨hnot, hw, ?_⟩
    obtain ⟨collections, heq, -⟩ := st.store.withCollection_eq p.publication.key.collection
      p.publication.profile
    rw [← heq] at hw
    have hc : { st.store with collections := collections }.Consistent :=
      hs.consistent.congr rfl rfl
    have hread := hs.pending p hpending
    have hnext := next_of_wrote hc ⟨hread.number, hread.row⟩ hw
    rw [key_of_publication] at hnext
    exact hnext

theorem Consistent.finish {st : IngestState PostgresKnowledgeStore} (hs : Sound st)
    {p : PendingIngest} (hpending : p ∈ st.pending) {result : IngestionResult}
    (h : p.finish publisher st.store = .ok (store', result)) : store'.Consistent := by
  obtain ⟨collections, heq, -⟩ := st.store.withCollection_eq p.publication.key.collection
    p.publication.profile
  have hc : (st.store.withCollection p.publication.key.collection
      p.publication.profile).Consistent := by
    rw [← heq]
    exact hs.consistent.congr rfl rfl
  rcases hs.finish_cases hpending h with ⟨-, rfl⟩ | ⟨-, hw, hnext⟩
  · exact hc
  · apply hc.wrote hw
    rw [key_of_publication, ← heq]
    exact hnext

/-- A source of a written publication holds its revision. -/
theorem getRevision_of_wrote {p : Publication} (hw : Wrote store store' p)
    (hnext : p.revision.source_revision = store.heldNumber p.revision.key + 1) :
    ∃ time, ∀ key, store'.getRevision key =
      if key = p.revision.key then some (p.revision.at time) else store.getRevision key := by
  obtain ⟨time, hdocuments⟩ := hw.documents
  refine ⟨time, ?_⟩
  intro key
  apply getRevision_put hdocuments
  show store.heldNumber p.revision.key < p.revision.source_revision
  omega

/-- The source of a tombstone holds it. -/
theorem getRevision_of_tombstone {key : SourceKey} {created_at : JsonFloat} {n : Nat}
    (h : store.tombstone key created_at = .ok (store', n)) :
    ∃ row, row.tombstoned = true ∧ row.source_revision = store.heldNumber key + 1 ∧
      ∀ other, store'.getRevision other =
        if other = key then some row else store.getRevision other := by
  obtain ⟨current, time, hcurrent, -, ⟨stored, hdocuments⟩, -⟩ := tombstone_ok h
  obtain ⟨hkey, hnumber⟩ := rowKey_tombstoneOf time hcurrent
  refine ⟨(tombstoneOf current time).at stored, rfl, hnumber, ?_⟩
  intro other
  have hput := getRevision_put hdocuments (by
    show store.heldNumber (tombstoneOf current time).key <
      (tombstoneOf current time).source_revision
    rw [hkey]
    omega) other
  rw [hput]
  show (if other = (tombstoneOf current time).key then _ else _) = _
  rw [hkey]

/-- Rows of documents stay. -/
def Grows (store store' : PostgresKnowledgeStore) : Prop :=
  ∀ k row, store.documents.get? k = some row → store'.documents.get? k = some row

theorem Grows.heldNumber_le (h : Grows store store') (key : SourceKey) :
    store.heldNumber key ≤ store'.heldNumber key := by
  unfold heldNumber
  cases hlatest : store.getRevision key with
  | none => exact Nat.zero_le _
  | some revision =>
    have hrow := h _ _ (getRevision_eq_some.mp hlatest).1
    exact le_heldNumber (by rw [hrow]; rfl)

theorem grows_put {row : DocumentRevision} (hdocuments : store'.documents = store.documents.put row)
    (hfresh : store.documents.get? row.rowKey = none) : Grows store store' := by
  intro k old hold
  rw [hdocuments, Registry.get?_put, if_neg]
  · exact hold
  · intro heq
    rw [heq, hfresh] at hold
    cases hold

/-- No step takes a row of a document away. -/
theorem grows_step {st st' : IngestState PostgresKnowledgeStore} {event : IngestEvent}
    (h : IngestStep publisher st event st') : Grows st.store st'.store := by
  cases h with
  | begin hbegin => exact fun _ _ hrow => hrow
  | @finish p before after after_store result hpending hfinish =>
    obtain ⟨n, hpublish, -⟩ := publish_of_finish hfinish
    obtain ⟨collections, heq, -⟩ := st.store.withCollection_eq p.publication.key.collection
      p.publication.profile
    rcases publishRevision_ok hpublish with ⟨-, rfl⟩ | ⟨-, hw⟩
    · rw [← heq]
      exact fun _ _ hrow => hrow
    · rw [← heq] at hw
      obtain ⟨time, hdocuments⟩ := hw.documents
      have hfresh := hw.document_fresh
      have hgrows : Grows st.store after_store := grows_put hdocuments hfresh
      exact hgrows
  | abandon hpending => exact fun _ _ hrow => hrow
  | tombstone htombstone =>
    obtain ⟨n, hstore⟩ := tombstone_of_source htombstone
    obtain ⟨current, time, -, hfresh, ⟨stored, hdocuments⟩, -⟩ := tombstone_ok hstore
    exact grows_put hdocuments hfresh
  | upsertNodes hupsert =>
    obtain ⟨rows, rfl⟩ := upsertNodes_ok hupsert
    exact fun _ _ hrow => hrow
  | upsertEdges hupsert =>
    obtain ⟨rows, rfl⟩ := upsertEdges_ok hupsert
    exact fun _ _ hrow => hrow

/-- What a pending ingest has read, the source holds. -/
theorem readsHeld_of_begin {pipeline : IngestionPipeline} {document : SourceDocument}
    {created_at : JsonFloat} {p : PendingIngest}
    (h : pipeline.begin publisher store document created_at = .ok (.pending p)) :
    ReadsHeld store p := by
  obtain ⟨hread, hdocument, -⟩ := begin_pending h
  have hget : store.getRevision document.key = p.existing := Except.ok.inj hread
  have hkey : p.publication.key = document.key := congrArg SourceDocument.key hdocument
  constructor
  · unfold heldNumber
    rw [hkey, hget]
    cases p.existing with
    | none => exact le_rfl
    | some existing => exact le_rfl
  · intro existing hexisting
    rw [hkey]
    exact (getRevision_eq_some.mp (hget.trans hexisting)).1

theorem ReadsHeld.mono {p : PendingIngest} (h : ReadsHeld store p) (hgrows : Grows store store') :
    ReadsHeld store' p := by
  constructor
  · have hnumber := h.number
    have hle := hgrows.heldNumber_le p.publication.key
    omega
  · intro existing hexisting
    exact hgrows _ _ (h.row existing hexisting)

theorem Sound.step {st st' : IngestState PostgresKnowledgeStore} {event : IngestEvent}
    (hs : Sound st) (h : IngestStep publisher st event st') : Sound st' := by
  have hgrows := grows_step h
  constructor
  · cases h with
    | begin hbegin => exact hs.consistent
    | finish hpending hfinish => exact Consistent.finish hs (by simp [hpending]) hfinish
    | abandon hpending => exact hs.consistent
    | tombstone htombstone =>
      obtain ⟨n, hstore⟩ := tombstone_of_source htombstone
      exact hs.consistent.tombstone hstore
    | upsertNodes hupsert =>
      obtain ⟨rows, rfl⟩ := upsertNodes_ok hupsert
      exact hs.consistent.congr rfl rfl
    | upsertEdges hupsert =>
      obtain ⟨rows, rfl⟩ := upsertEdges_ok hupsert
      exact hs.consistent.congr rfl rfl
  · intro p hp
    -- Only `begin` adds a pending ingest.
    have hcase : p ∈ st.pending ∨ ReadsHeld st.store p := by
      cases h with
      | begin hbegin =>
        rcases List.mem_cons.mp hp with rfl | hmem
        · exact Or.inr (readsHeld_of_begin hbegin)
        · exact Or.inl hmem
      | finish hpending hfinish =>
        rw [hpending]
        exact Or.inl (mem_of_rest hp)
      | abandon hpending =>
        rw [hpending]
        exact Or.inl (mem_of_rest hp)
      | tombstone htombstone => exact Or.inl hp
      | upsertNodes hupsert => exact Or.inl hp
      | upsertEdges hupsert => exact Or.inl hp
    have hread : ReadsHeld st.store p := hcase.elim (hs.pending p) id
    exact hread.mono hgrows

/-- Every reached state is sound. -/
theorem sound_of_run {ts : List (IngestTransition PostgresKnowledgeStore)}
    {st : IngestState PostgresKnowledgeStore} (hrun : IngestRun publisher empty ts st) :
    Sound st :=
  hrun.invariant Sound ⟨consistent_empty, fun p hp => by cases hp⟩ fun hs h => hs.step h

end PostgresKnowledgeStore

end CBrain.Knowledge
