import CBrain.Knowledge.Noninterference
import CBrain.Knowledge.PublishedChunks

/-! # What the revision of a collection tells

    Between two states of one history, the revision of a collection grows or
    the collection is as it was: the same live chunks under the same ids, with
    the same embeddings.

    * `SameContent` : a collection is as it was.
    * `IdsApart`    : what the in-memory store needs; there a publication also
      replaces the chunks of other collections that have its ids. -/

namespace CBrain.Knowledge

/-! ## Section 1: Contents -/

/-- The live chunks of a collection, and their embeddings, are the same in two
    stores. -/
structure SameContent {E : Type} (find find' : String → Option KnowledgeChunk)
    (embedding embedding' : String → Option E) (collection : CollectionKey) : Prop where
  chunks : ∀ chunk_id chunk, chunk.key.collection = collection →
    (find chunk_id = some chunk ↔ find' chunk_id = some chunk)
  embeddings : ∀ chunk_id chunk, chunk.key.collection = collection →
    find chunk_id = some chunk → embedding chunk_id = embedding' chunk_id

section content
variable {E : Type} {find find' find'' : String → Option KnowledgeChunk}
  {embedding embedding' embedding'' : String → Option E} {collection : CollectionKey}

theorem SameContent.refl : SameContent find find embedding embedding collection where
  chunks _ _ _ := Iff.rfl
  embeddings _ _ _ _ := rfl

theorem SameContent.trans (h : SameContent find find' embedding embedding' collection)
    (h' : SameContent find' find'' embedding' embedding'' collection) :
    SameContent find find'' embedding embedding'' collection where
  chunks chunk_id chunk hchunk :=
    (h.chunks chunk_id chunk hchunk).trans (h'.chunks chunk_id chunk hchunk)
  embeddings := by
    intro chunk_id chunk hchunk hfind
    have hfind' := (h.chunks chunk_id chunk hchunk).mp hfind
    rw [h.embeddings chunk_id chunk hchunk hfind, h'.embeddings chunk_id chunk hchunk hfind']

end content

/-- The revision grows or the content is the same. -/
def Tells (n n' : Nat) (same : Prop) : Prop := n < n' ∨ (n = n' ∧ same)

/-- One revision is counted up, and the other collections are as they were. -/
theorem Tells.of_bump {n n' : Nat} {same : Prop} (bumped collection : CollectionKey)
    (hself : collection = bumped → n' = n + 1) (hother : collection ≠ bumped → n' = n)
    (hsame : bumped ≠ collection → same) : Tells n n' same := by
  unfold Tells
  by_cases heq : collection = bumped
  · left
    have hnext := hself heq
    omega
  · right
    exact ⟨(hother heq).symm, hsame (Ne.symm heq)⟩

theorem Tells.trans {n n' n'' : Nat} {same same' both : Prop} (h : Tells n n' same)
    (h' : Tells n' n'' same') (hboth : same → same' → both) : Tells n n'' both := by
  rcases h with hlt | ⟨heq, hsame⟩
  · left
    rcases h' with hlt' | ⟨heq', -⟩
    · omega
    · omega
  · rcases h' with hlt' | ⟨heq', hsame'⟩
    · left
      omega
    · exact Or.inr ⟨heq.trans heq', hboth hsame hsame'⟩

/-- The publications of different collections that a history accepts have no
    chunk id in common.  The ids are digests that name the collection. -/
def IdsApart {S : Type} (ts : List (IngestTransition S)) : Prop :=
  ∀ t ∈ ts, ∀ u ∈ ts, ∀ p q : PendingIngest, t.event = .finish p → u.event = .finish q →
    p.publication.key.collection ≠ q.publication.key.collection →
      ∀ chunk_id ∈ p.publication.chunk_ids, chunk_id ∉ q.publication.chunk_ids

/-! ## Section 2: The in-memory store -/

namespace InMemoryKnowledgeStore

variable {store store' : InMemoryKnowledgeStore} {collection : CollectionKey}

/-- The collection is the same in two stores. -/
def SameCollection (collection : CollectionKey) (store store' : InMemoryKnowledgeStore) : Prop :=
  SameContent store.findChunk store'.findChunk store.embeddings.get? store'.embeddings.get?
    collection

/-- Every principal reads the same of it. -/
theorem SameCollection.agree (h : SameCollection collection store store')
    (principal_id : RequiredText) : AgreeOnCollection store store' collection principal_id := by
  have hreadable (s : InMemoryKnowledgeStore) (chunk_id : String) (chunk : KnowledgeChunk) :
      s.readableChunk collection principal_id chunk_id = some chunk ↔
        s.findChunk chunk_id = some chunk ∧ chunk.key.collection = collection ∧
          authorized chunk principal_id = true := by
    rw [readableChunk_eq_some]
    unfold findChunk
    rw [Option.filter_eq_some_iff]
    simp only [Bool.not_eq_true']
    tauto
  constructor
  · intro chunk_id
    apply Option.ext
    intro chunk
    rw [hreadable, hreadable]
    constructor
    · rintro ⟨hfind, hcollection, hauthorized⟩
      exact ⟨(h.chunks _ _ hcollection).mp hfind, hcollection, hauthorized⟩
    · rintro ⟨hfind, hcollection, hauthorized⟩
      exact ⟨(h.chunks _ _ hcollection).mpr hfind, hcollection, hauthorized⟩
  · intro chunk_id hsome
    obtain ⟨chunk, hchunk⟩ := Option.isSome_iff_exists.mp hsome
    obtain ⟨hfind, hcollection, -⟩ := (hreadable _ _ _).mp hchunk
    exact h.embeddings chunk_id chunk hcollection hfind

/-- The ids listed for a source were published for it. -/
def Listed (ts : List (IngestTransition InMemoryKnowledgeStore)) (store : InMemoryKnowledgeStore) :
    Prop :=
  ∀ key ids, store.live_chunks.get? key = some ids → ∀ chunk_id ∈ ids,
    ∃ t ∈ ts, ∃ p : PendingIngest, t.event = .finish p ∧ p.publication.key = key ∧
      chunk_id ∈ p.publication.chunk_ids

theorem Listed.mono {ts ts' : List (IngestTransition InMemoryKnowledgeStore)}
    (h : Listed ts store) (hsub : ∀ t ∈ ts, t ∈ ts') : Listed ts' store := by
  intro key ids hids chunk_id hmem
  obtain ⟨t, ht, hpublished⟩ := h key ids hids chunk_id hmem
  exact ⟨t, hsub t ht, hpublished⟩

theorem listed_of_run {ts : List (IngestTransition InMemoryKnowledgeStore)}
    {st : IngestState InMemoryKnowledgeStore} (hrun : IngestRun publisher empty ts st) :
    Listed ts st.store := by
  induction hrun with
  | nil => intro key ids hids; cases hids
  | @step ts st st' event hrun hstep ih =>
    have hold : Listed (ts ++ [⟨st, event, st'⟩]) st.store :=
      ih.mono fun t ht => List.mem_append_left _ ht
    cases hstep with
    | begin hbegin => exact hold
    | @finish p before after store' result hpending hfinish =>
      obtain rfl := finish_ok hfinish
      intro key ids hids chunk_id hmem
      have hset : (st.store.written p.publication).live_chunks.get? key =
          if key = p.publication.key then some p.publication.chunk_ids
          else st.store.live_chunks.get? key := Table.get?_set _ _ _ _
      rw [hset] at hids
      by_cases hkey : key = p.publication.key
      · rw [if_pos hkey] at hids
        obtain rfl := Option.some.inj hids
        exact ⟨_, List.mem_append_right _ List.mem_cons_self, p, rfl, hkey.symm, hmem⟩
      · rw [if_neg hkey] at hids
        exact hold key ids hids chunk_id hmem
    | abandon hpending => exact hold
    | tombstone htombstone =>
      obtain ⟨n, hstore⟩ := tombstone_of_source htombstone
      obtain ⟨-, -, -, -, -, -, hlive, -⟩ := tombstone_ok hstore
      intro key ids hids
      rw [hlive] at hids
      exact hold key ids hids
    | upsertNodes hupsert =>
      obtain rfl := Except.ok.inj hupsert
      exact hold
    | upsertEdges hupsert =>
      obtain rfl := Except.ok.inj hupsert
      exact hold

/-- A publication of another collection, with other ids, leaves the collection
    as it was. -/
theorem sameCollection_written (hc : store.Consistent) {p : Publication}
    (hother : p.key.collection ≠ collection)
    (hnew : ∀ chunk_id chunk, store.chunks.get? chunk_id = some chunk →
      chunk.key.collection = collection → chunk_id ∉ p.chunk_ids)
    (hold : ∀ chunk_id chunk, store.chunks.get? chunk_id = some chunk →
      chunk.key.collection = collection → chunk_id ∉ (store.live_chunks.get? p.key).getD []) :
    SameCollection collection store (store.written p) := by
  have hkey : ∀ {chunk : KnowledgeChunk}, chunk.key.collection = collection → chunk.key ≠ p.key := by
    intro chunk hchunk heq
    rw [heq] at hchunk
    exact hother hchunk
  have hrevision : ∀ {chunk : KnowledgeChunk}, chunk.key.collection = collection →
      (store.written p).revisions.get? chunk.key = store.revisions.get? chunk.key := by
    intro chunk hchunk
    exact Table.get?_set_ne _ _ (hkey hchunk)
  -- The rows of the collection stay.
  have hstays : ∀ {chunk_id chunk}, store.chunks.get? chunk_id = some chunk →
      chunk.key.collection = collection →
        (store.written p).chunks.get? chunk_id = some chunk ∧
          (store.written p).embeddings.get? chunk_id = store.embeddings.get? chunk_id := by
    intro chunk_id chunk hget hchunk
    have hfresh := hnew chunk_id chunk hget hchunk
    have hkept := hold chunk_id chunk hget hchunk
    constructor
    · show ((store.chunks.removeAll _).putAll p.chunks).get? chunk_id = _
      rw [Registry.get?_putAll_of_not_mem, Registry.get?_removeAll, if_neg hkept]
      · exact hget
      · intro other hmem heq
        exact hfresh (heq ▸ List.mem_map_of_mem hmem)
    · show ((store.embeddings.eraseAll _).setAll Prod.fst Prod.snd p.embeddings.rows).get? _ = _
      rw [Table.get?_setAll_of_not_mem, Table.get?_eraseAll, if_neg hkept]
      intro row hmem heq
      apply hfresh
      apply p.embedded
      have hget' : p.embeddings.get? row.1 = some row.2 := Table.mem_rows.mp hmem
      rw [← heq, hget']
      rfl
  constructor
  · intro chunk_id chunk hchunk
    rw [findChunk_eq_some, findChunk_eq_some, hrevision hchunk]
    constructor
    · rintro ⟨hget, hlive⟩
      exact ⟨(hstays hget hchunk).1, hlive⟩
    · rintro ⟨hget, hlive⟩
      rcases chunk_of_written hc hget with ⟨hmem, -⟩ | ⟨-, hbefore⟩
      · exact absurd (Publication.key_of_mem hmem) (hkey hchunk)
      · exact ⟨hbefore, hlive⟩
  · intro chunk_id chunk hchunk hfind
    exact (hstays (findChunk_eq_some.mp hfind).1 hchunk).2.symm

theorem sameCollection_tombstone {key : SourceKey} {created_at : JsonFloat} {n : Nat}
    (h : store.tombstone key created_at = .ok (store', n)) (hother : key.collection ≠ collection) :
    SameCollection collection store store' := by
  obtain ⟨current, time, -, hrevisions, -, hchunks, -, hembeddings⟩ := tombstone_ok h
  constructor
  · intro chunk_id chunk hchunk
    have hne : chunk.key ≠ key := by
      rintro rfl
      exact hother hchunk
    rw [findChunk_eq_some, findChunk_eq_some, hchunks, hrevisions, Table.get?_set_ne _ _ hne]
  · intro chunk_id chunk _ _
    rw [hembeddings]

/-- What a change of a collection does to the revisions. -/
theorem collectionRevision_bump {bumped : CollectionKey}
    (h : store'.collection_revisions =
      store.collection_revisions.set bumped (store.nextRevision bumped)) :
    store'.collectionRevision bumped = store.collectionRevision bumped + 1 ∧
      ∀ other, other ≠ bumped → store'.collectionRevision other = store.collectionRevision other := by
  constructor
  · rw [collectionRevision_set h, if_pos rfl]
  · intro other hne
    rw [collectionRevision_set h, if_neg hne.symm, Nat.add_zero]

/-- No publication has an id that the collection has, under an accepted
    publication. -/
theorem ids_fresh {ts : List (IngestTransition InMemoryKnowledgeStore)}
    {st : IngestState InMemoryKnowledgeStore} (hrun : IngestRun publisher empty ts st)
    {t : IngestTransition InMemoryKnowledgeStore} {p : PendingIngest}
    (hevent : t.event = .finish p) (hapart : IdsApart (ts ++ [t]))
    (hother : p.publication.key.collection ≠ collection) {chunk_id : String}
    {chunk : KnowledgeChunk} (hget : st.store.chunks.get? chunk_id = some chunk)
    (hchunk : chunk.key.collection = collection) :
    chunk_id ∉ p.publication.chunk_ids ∧
      chunk_id ∉ (st.store.live_chunks.get? p.publication.key).getD [] := by
  -- The chunk was published for its own source.
  obtain ⟨own, hown, hmem⟩ := (consistent_of_run hrun).listed hget
  obtain ⟨u, hu, q, hq, hkey, hqmem⟩ := listed_of_run hrun _ _ hown _ hmem
  have hcollection : q.publication.key.collection = collection := by
    rw [hkey]
    exact hchunk
  have hu' : u ∈ ts ++ [t] := List.mem_append_left _ hu
  constructor
  · exact hapart u hu' t (List.mem_append_right _ List.mem_cons_self) q p hq hevent
      (hcollection ▸ hother.symm) chunk_id hqmem
  · intro hprevious
    cases hids : st.store.live_chunks.get? p.publication.key with
    | none =>
      rw [hids] at hprevious
      cases hprevious
    | some ids =>
      rw [hids] at hprevious
      obtain ⟨v, hv, q', hq', hkey', hqmem'⟩ := listed_of_run hrun _ _ hids chunk_id hprevious
      refine hapart u hu' v (List.mem_append_left _ hv) q q' hq hq' ?_ chunk_id hqmem hqmem'
      rw [hcollection, hkey']
      exact hother.symm

/-- **Step**: the revision of a collection grows, or the collection is as it was. -/
theorem tells_step {ts : List (IngestTransition InMemoryKnowledgeStore)}
    {st st' : IngestState InMemoryKnowledgeStore} {event : IngestEvent}
    (hrun : IngestRun publisher empty ts st) (h : IngestStep publisher st event st')
    (hapart : IdsApart (ts ++ [⟨st, event, st'⟩])) (collection : CollectionKey) :
    Tells (st.store.collectionRevision collection) (st'.store.collectionRevision collection)
      (SameCollection collection st.store st'.store) := by
  have hsame : SameCollection collection st.store st.store := SameContent.refl
  cases h with
  | begin hbegin => exact Or.inr ⟨rfl, hsame⟩
  | @finish p before after store' result hpending hfinish =>
    obtain rfl := finish_ok hfinish
    have hrevisions : (st.store.written p.publication).collection_revisions =
        st.store.collection_revisions.set p.publication.key.collection
          (st.store.nextRevision p.publication.key.collection) := rfl
    obtain ⟨hself, hothers⟩ := collectionRevision_bump hrevisions
    apply Tells.of_bump p.publication.key.collection collection
    · rintro rfl
      exact hself
    · exact hothers collection
    · intro hother
      apply sameCollection_written (consistent_of_run hrun) hother
      · intro chunk_id chunk hget hchunk
        exact (ids_fresh hrun rfl hapart hother hget hchunk).1
      · intro chunk_id chunk hget hchunk
        exact (ids_fresh hrun rfl hapart hother hget hchunk).2
  | abandon hpending => exact Or.inr ⟨rfl, hsame⟩
  | @tombstone key created_at store' result htombstone =>
    obtain ⟨n, hstore⟩ := tombstone_of_source htombstone
    obtain ⟨-, -, -, -, hrevisions, -⟩ := tombstone_ok hstore
    obtain ⟨hself, hothers⟩ := collectionRevision_bump hrevisions
    apply Tells.of_bump key.collection collection
    · rintro rfl
      exact hself
    · exact hothers collection
    · exact sameCollection_tombstone hstore
  | upsertNodes hupsert =>
    obtain rfl := Except.ok.inj hupsert
    exact Or.inr ⟨rfl, hsame⟩
  | upsertEdges hupsert =>
    obtain rfl := Except.ok.inj hupsert
    exact Or.inr ⟨rfl, hsame⟩

/-- **Run**: between two states of one history too. -/
theorem tells_run {ts later : List (IngestTransition InMemoryKnowledgeStore)}
    {st st' : IngestState InMemoryKnowledgeStore} (hrun : IngestRun publisher empty ts st)
    (hrun' : IngestRun publisher empty (ts ++ later) st') (hapart : IdsApart (ts ++ later))
    (collection : CollectionKey) :
    Tells (st.store.collectionRevision collection) (st'.store.collectionRevision collection)
      (SameCollection collection st.store st'.store) := by
  apply hrun.related hrun' fun s s' => Tells (s.collectionRevision collection)
    (s'.collectionRevision collection) (SameCollection collection s s')
  · intro s
    exact Or.inr ⟨rfl, SameContent.refl⟩
  · intro a b c hab hbc
    exact hab.trans hbc SameContent.trans
  · intro t ht
    obtain ⟨earlier, hextends, hbefore, hstep⟩ := hrun'.of_mem (List.mem_append_right ts ht)
    refine tells_step hbefore hstep ?_ collection
    -- What happened up to the step happened in the history.
    have hmem : ∀ u ∈ earlier ++ [t], u ∈ ts ++ later := by
      intro u hu
      rcases List.mem_append.mp hu with hearlier | hlast
      · exact hextends.subset hearlier
      · obtain rfl := List.mem_singleton.mp hlast
        exact List.mem_append_right ts ht
    intro u hu v hv
    exact hapart u (hmem u hu) v (hmem v hv)

end InMemoryKnowledgeStore

/-! ## Section 3: The PostgreSQL store -/

namespace PostgresKnowledgeStore

variable {store store' : PostgresKnowledgeStore} {collection : CollectionKey}

/-- The collection is the same in two stores. -/
def SameCollection (collection : CollectionKey) (store store' : PostgresKnowledgeStore) : Prop :=
  SameContent store.findChunk store'.findChunk store.embeddings.get? store'.embeddings.get?
    collection

/-- Rows of other collections are added, and the collection is as it was. -/
theorem sameCollection_of_rows
    (hrevisions : ∀ key : SourceKey, key.collection = collection →
      store'.getRevision key = store.getRevision key)
    (hchunks : ∀ chunk_id chunk, chunk.key.collection = collection →
      (store.chunks.get? chunk_id = some chunk ↔ store'.chunks.get? chunk_id = some chunk))
    (hembeddings : ∀ chunk_id, (store.chunks.get? chunk_id).isSome = true →
      store'.embeddings.get? chunk_id = store.embeddings.get? chunk_id) :
    SameCollection collection store store' := by
  constructor
  · intro chunk_id chunk hchunk
    rw [findChunk_eq_some, findChunk_eq_some, hrevisions _ hchunk, hchunks _ _ hchunk]
  · intro chunk_id chunk _ hfind
    rw [hembeddings]
    rw [(findChunk_eq_some.mp hfind).1]
    rfl

/-- A publication of another collection leaves the collection as it was. -/
theorem sameCollection_wrote {p : Publication} (hw : Wrote store store' p)
    (hnext : p.revision.source_revision = store.heldNumber p.revision.key + 1)
    (hother : p.key.collection ≠ collection) : SameCollection collection store store' := by
  obtain ⟨time, hrevision⟩ := getRevision_of_wrote hw hnext
  apply sameCollection_of_rows
  · intro key hkey
    rw [hrevision, if_neg]
    intro heq
    rw [heq, key_of_publication] at hkey
    exact hother hkey
  · intro chunk_id chunk hchunk
    constructor
    · exact hw.chunks.kept
    · intro hget
      rcases hw.chunks.only hget with hold | ⟨new, hnew, time', -, rfl⟩
      · exact hold
      · rw [KnowledgeChunk.at_key, Publication.key_of_mem hnew] at hchunk
        exact absurd hchunk hother
  · intro chunk_id hsome
    apply hw.embeddings
    intro hmem
    obtain ⟨chunk, hchunk, rfl⟩ := List.mem_map.mp hmem
    rw [hw.chunks.fresh chunk hchunk] at hsome
    cases hsome

theorem sameCollection_tombstone {key : SourceKey} {created_at : JsonFloat} {n : Nat}
    (h : store.tombstone key created_at = .ok (store', n)) (hother : key.collection ≠ collection) :
    SameCollection collection store store' := by
  obtain ⟨-, -, -, -, -, hchunks, hembeddings, -⟩ := tombstone_ok h
  obtain ⟨row, -, -, hrevision⟩ := getRevision_of_tombstone h
  apply sameCollection_of_rows
  · intro other hkey
    rw [hrevision, if_neg]
    rintro rfl
    exact hother hkey
  · intro chunk_id chunk _
    rw [hchunks]
  · intro chunk_id _
    rw [hembeddings]

/-- Other tables do not matter. -/
theorem sameCollection_congr (hdocuments : store'.documents = store.documents)
    (hchunks : store'.chunks = store.chunks) (hembeddings : store'.embeddings = store.embeddings) :
    SameCollection collection store store' := by
  apply sameCollection_of_rows
  · intro key _
    exact getRevision_congr hdocuments key
  · intro chunk_id chunk _
    rw [hchunks]
  · intro chunk_id _
    rw [hembeddings]

theorem collectionRevision_congr
    (h : store'.collections.get? collection = store.collections.get? collection) :
    store'.collectionRevision collection = store.collectionRevision collection := by
  unfold collectionRevision
  rw [h]

/-- **Step**: the revision of a collection grows, or the collection is as it was. -/
theorem tells_step {ts : List (IngestTransition PostgresKnowledgeStore)}
    {st st' : IngestState PostgresKnowledgeStore} {event : IngestEvent}
    (hrun : IngestRun publisher empty ts st) (h : IngestStep publisher st event st')
    (collection : CollectionKey) :
    Tells (st.store.collectionRevision collection) (st'.store.collectionRevision collection)
      (SameCollection collection st.store st'.store) := by
  have hsame : SameCollection collection st.store st.store := SameContent.refl
  cases h with
  | begin hbegin => exact Or.inr ⟨rfl, hsame⟩
  | @finish p before after store' result hpending hfinish =>
    have hmem : p ∈ st.pending := by
      rw [hpending]
      exact List.mem_append_right before List.mem_cons_self
    obtain ⟨collections, heq, -⟩ := st.store.withCollection_eq p.publication.key.collection
      p.publication.profile
    have hrevision := collectionRevision_withCollection st.store p.publication.key.collection
      p.publication.profile
    have hrow : SameCollection collection st.store
        (st.store.withCollection p.publication.key.collection p.publication.profile) := by
      rw [← heq]
      exact sameCollection_congr rfl rfl rfl
    rcases (sound_of_run hrun).finish_cases hmem hfinish with ⟨-, rfl⟩ | ⟨-, hw, hnext⟩
    · right
      exact ⟨(hrevision collection).symm, hrow⟩
    · apply Tells.of_bump p.publication.key.collection collection
      · rintro rfl
        rw [← hrevision]
        exact hw.collection_revision
      · intro hother
        rw [← hrevision]
        exact collectionRevision_congr (hw.collections collection hother)
      · intro hother
        refine hrow.trans (sameCollection_wrote hw ?_ hother)
        rw [key_of_publication, ← heq]
        exact hnext
  | abandon hpending => exact Or.inr ⟨rfl, hsame⟩
  | @tombstone key created_at store' result htombstone =>
    obtain ⟨n, hstore⟩ := tombstone_of_source htombstone
    obtain ⟨-, -, -, -, -, -, -, -, -, hbumped, hothers⟩ := tombstone_ok hstore
    apply Tells.of_bump key.collection collection
    · rintro rfl
      exact hbumped
    · intro hother
      exact collectionRevision_congr (hothers collection hother)
    · exact sameCollection_tombstone hstore
  | upsertNodes hupsert =>
    obtain ⟨rows, rfl⟩ := upsertNodes_ok hupsert
    exact Or.inr ⟨rfl, sameCollection_congr rfl rfl rfl⟩
  | upsertEdges hupsert =>
    obtain ⟨rows, rfl⟩ := upsertEdges_ok hupsert
    exact Or.inr ⟨rfl, sameCollection_congr rfl rfl rfl⟩

/-- **Run**: between two states of one history too. -/
theorem tells_run {ts later : List (IngestTransition PostgresKnowledgeStore)}
    {st st' : IngestState PostgresKnowledgeStore} (hrun : IngestRun publisher empty ts st)
    (hrun' : IngestRun publisher empty (ts ++ later) st') (collection : CollectionKey) :
    Tells (st.store.collectionRevision collection) (st'.store.collectionRevision collection)
      (SameCollection collection st.store st'.store) := by
  apply hrun.related hrun' fun s s' => Tells (s.collectionRevision collection)
    (s'.collectionRevision collection) (SameCollection collection s s')
  · intro s
    exact Or.inr ⟨rfl, SameContent.refl⟩
  · intro a b c hab hbc
    exact hab.trans hbc SameContent.trans
  · intro t ht
    obtain ⟨earlier, -, hbefore, hstep⟩ := hrun'.of_mem (List.mem_append_right ts ht)
    exact tells_step hbefore hstep collection

end PostgresKnowledgeStore

end CBrain.Knowledge
