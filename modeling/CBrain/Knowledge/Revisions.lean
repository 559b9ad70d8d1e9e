import CBrain.Knowledge.MemoryHistory
import CBrain.Knowledge.PostgresHistory

/-! # Concurrent changes of one source

    An ingest computes the number of its revision from a read that is made
    before the publication.  Between the two any other worker may change the
    source.

    * `Moves`         : what one step can do to the revisions that sources hold.
    * `Lawful`        : numbers grow, and a tombstone is undone only by who has
                        read it.
    * `PublishesHeld` : the publication comes from a read of the held revision.

    A step that publishes what was read of the held revision is lawful
    (`lawful_of_held`), whatever the store.  The PostgreSQL store accepts no
    other change; the in-memory store accepts any. -/

namespace CBrain.Knowledge

/-! ## Section 1: The law of one step -/

/-- The number of the revision that a source holds. -/
def numberOf : Option DocumentRevision → Nat
  | none => 0
  | some revision => revision.source_revision

theorem nextNumber_eq (existing : Option DocumentRevision) :
    nextNumber existing = numberOf existing + 1 := by
  cases existing with
  | none => rfl
  | some revision => rfl

section law
variable {S : Type} (held : S → SourceKey → Option DocumentRevision)
  (collectionRevision : S → CollectionKey → Nat)

/-- An accepted change of a source raises its number, and an ingest that makes a
    tombstoned source live has read the tombstone. -/
structure Lawful (t : IngestTransition S) : Prop where
  increases : ∀ key, t.event.source = some key →
    collectionRevision t.after.store key.collection ≠
      collectionRevision t.before.store key.collection →
    numberOf (held t.before.store key) < numberOf (held t.after.store key)
  no_revival : ∀ p, t.event = .finish p →
    ∀ tombstone ∈ held t.before.store p.publication.key, tombstone.tombstoned = true →
    ∀ revision ∈ held t.after.store p.publication.key, revision.tombstoned = false →
    p.existing = some tombstone

/-- A publication comes from a read of the revision that its source holds. -/
def PublishesHeld (t : IngestTransition S) : Prop :=
  ∀ p, t.event = .finish p → held t.before.store p.publication.key = p.existing

/-- What one step can do to the held revisions. -/
inductive Moves (before after : S) : IngestEvent → Prop where
  | same {event : IngestEvent} (h : ∀ key, held after key = held before key)
      (hcount : ∀ key, event.source = some key →
        collectionRevision after key.collection = collectionRevision before key.collection) :
      Moves before after event
  | published {p : PendingIngest} {row : DocumentRevision}
      (hnumber : row.source_revision = nextNumber p.existing) (hlive : row.tombstoned = false)
      (h : ∀ key, held after key = if key = p.publication.key then some row else held before key) :
      Moves before after (.finish p)
  | tombstoned {source : SourceKey} {row : DocumentRevision} (htombstoned : row.tombstoned = true)
      (hnumber : row.source_revision = numberOf (held before source) + 1)
      (h : ∀ key, held after key = if key = source then some row else held before key) :
      Moves before after (.tombstone source)

variable {held collectionRevision}

/-- A step that leaves the revisions as they are is lawful. -/
theorem lawful_of_same {t : IngestTransition S}
    (h : ∀ key, held t.after.store key = held t.before.store key)
    (hcount : ∀ key, t.event.source = some key →
      collectionRevision t.after.store key.collection =
        collectionRevision t.before.store key.collection) : Lawful held collectionRevision t := by
  constructor
  · intro key hkey hne
    exact absurd (hcount key hkey) hne
  · intro p hp tombstone htombstone hdead revision hrevision hlive
    -- The source is still tombstoned.
    rw [h, htombstone] at hrevision
    obtain rfl := Option.some.inj hrevision
    rw [hdead] at hlive
    cases hlive

/-- A step that publishes what was read of the held revision is lawful. -/
theorem lawful_of_held {t : IngestTransition S}
    (hmoves : Moves held collectionRevision t.before.store t.after.store t.event)
    (hheld : PublishesHeld held t) : Lawful held collectionRevision t := by
  obtain ⟨before, event, after⟩ := t
  simp only at hmoves
  cases hmoves with
  | same h hcount => exact lawful_of_same h hcount
  | @published p row hnumber hlive h =>
    have hread : held before.store p.publication.key = p.existing := hheld p rfl
    constructor
    · intro key hkey _
      obtain rfl : p.publication.key = key := Option.some.inj hkey
      simp only
      rw [h, if_pos rfl, hread]
      have hnext := nextNumber_eq p.existing
      show numberOf p.existing < row.source_revision
      omega
    · intro q hq tombstone htombstone _ _ _ _
      obtain rfl := IngestEvent.finish.inj hq
      exact hread.symm.trans htombstone
  | @tombstoned source row htombstoned hnumber h =>
    constructor
    · intro key hkey _
      obtain rfl : source = key := Option.some.inj hkey
      simp only
      rw [h, if_pos rfl]
      show numberOf (held before.store source) < row.source_revision
      omega
    · intro q hq
      cases hq

/-- A pending ingest has read the held revision or one that is out of date. -/
def Reads (held : S → SourceKey → Option DocumentRevision) (store : S) (p : PendingIngest) : Prop :=
  held store p.publication.key = p.existing ∨
    nextNumber p.existing ≤ numberOf (held store p.publication.key)

/-- What was read stays read or out of date, as long as numbers grow. -/
theorem Reads.moves {before after : S} {event : IngestEvent} {p : PendingIngest}
    (hreads : Reads held before p) (hmoves : Moves held collectionRevision before after event)
    (hgrows : ∀ q, event = .finish q → (∀ key, held after key = held before key) ∨
      numberOf (held before q.publication.key) < nextNumber q.existing) :
    Reads held after p := by
  have hnext := nextNumber_eq p.existing
  cases hmoves with
  | same h hcount =>
    unfold Reads
    rw [h]
    exact hreads
  | @published q row hnumber hlive h =>
    rcases hgrows q rfl with hsame | hlt
    · unfold Reads
      rw [hsame]
      exact hreads
    · unfold Reads at hreads ⊢
      rw [h]
      by_cases hkey : p.publication.key = q.publication.key
      · rw [if_pos hkey]
        rw [hkey] at hreads
        -- The number has grown over the one that was read.
        have hle : numberOf p.existing ≤ numberOf (held before q.publication.key) := by
          rcases hreads with heq | hold
          · rw [heq]
          · omega
        have hrow : numberOf (some row) = nextNumber q.existing := hnumber
        right
        omega
      · rw [if_neg hkey]
        exact hreads
  | @tombstoned source row htombstoned hnumber h =>
    unfold Reads at hreads ⊢
    rw [h]
    by_cases hkey : p.publication.key = source
    · rw [if_pos hkey]
      rw [hkey] at hreads
      have hle : numberOf p.existing ≤ numberOf (held before source) := by
        rcases hreads with heq | hold
        · rw [heq]
        · omega
      have hrow : numberOf (some row) = numberOf (held before source) + 1 := hnumber
      right
      omega
    · rw [if_neg hkey]
      exact hreads

end law

/-! ## Section 2: The in-memory store -/

namespace InMemoryKnowledgeStore

theorem getRevision_written (store : InMemoryKnowledgeStore) (p : Publication) (key : SourceKey) :
    (store.written p).getRevision key =
      if key = p.key then some p.revision else store.getRevision key :=
  Table.get?_set _ _ _ _

theorem collectionRevision_written (store : InMemoryKnowledgeStore) (p : Publication) :
    (store.written p).collectionRevision p.key.collection =
      store.collectionRevision p.key.collection + 1 := by
  unfold collectionRevision written
  simp only [Table.get?_set_self]
  rfl

/-- What a step of any worker does to the revisions of an in-memory store. -/
theorem moves_step {st st' : IngestState InMemoryKnowledgeStore} {event : IngestEvent}
    (h : IngestStep publisher st event st') :
    Moves getRevision collectionRevision st.store st'.store event := by
  cases h with
  | begin hbegin => exact .same (fun _ => rfl) fun _ h => by cases h
  | @finish p before after store' result hpending hfinish =>
    rw [finish_ok hfinish]
    exact .published p.numbered p.publication.describes.tombstoned
      (getRevision_written st.store p.publication)
  | abandon hpending => exact .same (fun _ => rfl) fun _ h => by cases h
  | @tombstone source created_at store' result htombstone =>
    obtain ⟨n, hstore⟩ := tombstone_of_source htombstone
    obtain ⟨current, time, hcurrent, hrevisions, -⟩ := tombstone_ok hstore
    have hnumber : (tombstoneOf source current time).source_revision =
        numberOf (st.store.getRevision source) + 1 := by
      unfold getRevision
      rw [hcurrent]
      rfl
    have hget : ∀ key, store'.getRevision key =
        if key = source then some (tombstoneOf source current time)
        else st.store.getRevision key := by
      intro key
      unfold getRevision
      rw [hrevisions]
      exact Table.get?_set _ _ _ _
    exact .tombstoned (by rfl) hnumber hget
  | upsertNodes hupsert =>
    obtain rfl := Except.ok.inj hupsert
    exact .same (fun _ => rfl) fun _ h => by cases h
  | upsertEdges hupsert =>
    obtain rfl := Except.ok.inj hupsert
    exact .same (fun _ => rfl) fun _ h => by cases h

/-- Every pending ingest of a reached state reads so. -/
theorem reads_begin {st : IngestState InMemoryKnowledgeStore} {pipeline : IngestionPipeline}
    {document : SourceDocument} {created_at : JsonFloat} {p : PendingIngest}
    (h : pipeline.begin publisher st.store document created_at = .ok (.pending p)) :
    Reads getRevision st.store p := by
  obtain ⟨hread, hdocument, -⟩ := begin_pending h
  have hkey : p.publication.key = document.key := congrArg SourceDocument.key hdocument
  unfold Reads
  rw [hkey]
  exact Or.inl (Except.ok.inj hread)

/-- In a lawful step a publication raises the number of its source. -/
theorem grows_of_lawful {st st' : IngestState InMemoryKnowledgeStore} {p : PendingIngest}
    (h : IngestStep publisher st (.finish p) st')
    (hlawful : Lawful getRevision collectionRevision ⟨st, .finish p, st'⟩) :
    numberOf (st.store.getRevision p.publication.key) < nextNumber p.existing := by
  cases h with
  | finish hpending hfinish =>
    have hstore := finish_ok hfinish
    have hincreases := hlawful.increases p.publication.key rfl (by
      simp only
      rw [hstore, collectionRevision_written]
      omega)
    simp only at hincreases
    rw [hstore, getRevision_written, if_pos rfl] at hincreases
    have hnumber := p.numbered
    exact lt_of_lt_of_eq hincreases hnumber

/-- In a run whose steps are lawful, what is pending reads the held revision or
    one that is out of date. -/
theorem reads_of_lawful {ts : List (IngestTransition InMemoryKnowledgeStore)}
    {st : IngestState InMemoryKnowledgeStore} (hrun : IngestRun publisher empty ts st)
    (hlawful : ∀ t ∈ ts, Lawful getRevision collectionRevision t) :
    ∀ p ∈ st.pending, Reads getRevision st.store p := by
  induction hrun with
  | nil =>
    intro p hp
    cases hp
  | @step ts st st' event hrun h ih =>
    have hbefore := ih fun t ht => hlawful t (List.mem_append_left _ ht)
    have hlast := hlawful ⟨st, event, st'⟩ (List.mem_append_right _ List.mem_cons_self)
    have hgrows : ∀ q, event = .finish q →
        (∀ key, st'.store.getRevision key = st.store.getRevision key) ∨
          numberOf (st.store.getRevision q.publication.key) < nextNumber q.existing := by
      rintro q rfl
      exact Or.inr (grows_of_lawful h hlast)
    intro p hp
    have hcase : Reads getRevision st.store p := by
      cases h with
      | begin hbegin =>
        rcases List.mem_cons.mp hp with rfl | hmem
        · exact reads_begin hbegin
        · exact hbefore p hmem
      | finish hpending hfinish =>
        apply hbefore
        rw [hpending]
        exact mem_of_rest hp
      | abandon hpending =>
        apply hbefore
        rw [hpending]
        exact mem_of_rest hp
      | tombstone htombstone => exact hbefore p hp
      | upsertNodes hupsert => exact hbefore p hp
      | upsertEdges hupsert => exact hbefore p hp
    exact hcase.moves (moves_step h) hgrows

/-- A run of an in-memory store is lawful exactly when each publication comes
    from a read of the held revision. -/
theorem lawful_iff_held {ts : List (IngestTransition InMemoryKnowledgeStore)}
    {st : IngestState InMemoryKnowledgeStore} (hrun : IngestRun publisher empty ts st) :
    (∀ t ∈ ts, Lawful getRevision collectionRevision t) ↔ ∀ t ∈ ts, PublishesHeld getRevision t := by
  constructor
  · intro hlawful
    induction hrun with
    | nil =>
      intro t ht
      cases ht
    | @step ts st st' event hrun h ih =>
      have hearlier : ∀ t ∈ ts, Lawful getRevision collectionRevision t :=
        fun t ht => hlawful t (List.mem_append_left _ ht)
      intro t ht
      rcases List.mem_append.mp ht with hmem | hlast
      · exact ih hearlier t hmem
      · obtain rfl := List.mem_singleton.mp hlast
        rintro p rfl
        have hgrows := grows_of_lawful h (hlawful _ (List.mem_append_right _ List.mem_cons_self))
        have hpending : p ∈ st.pending := by
          cases h with
          | finish hpending hfinish => simp [hpending]
        rcases reads_of_lawful hrun hearlier p hpending with heq | hold
        · exact heq
        · -- A read that is out of date would not raise the number.
          omega
  · intro hheld t ht
    obtain ⟨-, -, -, h⟩ := hrun.of_mem ht
    exact lawful_of_held (moves_step h) (hheld t ht)

end InMemoryKnowledgeStore

/-! ## Section 3: The PostgreSQL store -/

namespace PostgresKnowledgeStore

theorem heldNumber_eq (store : PostgresKnowledgeStore) (key : SourceKey) :
    store.heldNumber key = numberOf (store.getRevision key) := by
  unfold heldNumber numberOf
  cases store.getRevision key with
  | none => rfl
  | some revision => rfl

/-- A number is held by one revision only. -/
theorem existing_eq {store : PostgresKnowledgeStore} {p : PendingIngest} (hread : ReadsHeld store p)
    (hnext : nextNumber p.existing = store.heldNumber p.publication.key + 1) :
    store.getRevision p.publication.key = p.existing := by
  cases hexisting : p.existing with
  | none =>
    rw [hexisting] at hnext
    have hzero : store.heldNumber p.publication.key = 0 := by
      have : nextNumber none = 1 := rfl
      omega
    unfold heldNumber at hzero
    cases hlatest : store.getRevision p.publication.key with
    | none => rfl
    | some revision =>
      rw [hlatest] at hzero
      have hpos := revision.source_revision_pos
      simp only at hzero
      omega
  | some existing =>
    have hrow := hread.row existing hexisting
    rw [hexisting] at hnext
    have hnumber : existing.source_revision = store.heldNumber p.publication.key := by
      have : nextNumber (some existing) = existing.source_revision + 1 := rfl
      omega
    rw [getRevision_eq_some]
    refine ⟨hrow, ?_⟩
    intro n hsome
    rw [hnumber]
    exact le_heldNumber hsome

/-- A publication that is written comes from a read of the held revision. -/
theorem lawful_finish {st : IngestState PostgresKnowledgeStore} (hs : Sound st)
    {p : PendingIngest} (hpending : p ∈ st.pending) {store' : PostgresKnowledgeStore}
    {rest : List PendingIngest} {result : IngestionResult}
    (h : p.finish publisher st.store = .ok (store', result)) :
    Lawful getRevision collectionRevision ⟨st, .finish p, ⟨store', rest⟩⟩ := by
  obtain ⟨collections, heq, -⟩ := st.store.withCollection_eq p.publication.key.collection
    p.publication.profile
  rcases hs.finish_cases hpending h with ⟨-, rfl⟩ | ⟨-, hw, hnext⟩
  · apply lawful_of_same
    · intro key
      simp only
      rw [← heq]
      rfl
    · intro key _
      exact collectionRevision_withCollection st.store _ _ _
  · rw [← heq] at hw
    obtain ⟨time, hget⟩ := getRevision_of_wrote hw (by
      rw [key_of_publication]
      exact hnext)
    have hmoves : Moves getRevision collectionRevision st.store store' (.finish p) := by
      have hnumber : (p.publication.revision.at time).source_revision = nextNumber p.existing :=
        p.numbered
      have hlive : (p.publication.revision.at time).tombstoned = false :=
        p.publication.describes.tombstoned
      apply Moves.published hnumber hlive
      intro key
      rw [hget, key_of_publication]
      rfl
    apply lawful_of_held hmoves
    intro q hq
    obtain rfl := IngestEvent.finish.inj hq
    apply existing_eq (hs.pending p hpending)
    rw [← p.numbered]
    exact hnext

/-- Every step on the tables is lawful. -/
theorem lawful_step {st st' : IngestState PostgresKnowledgeStore} {event : IngestEvent}
    (hs : Sound st) (h : IngestStep publisher st event st') :
    Lawful getRevision collectionRevision ⟨st, event, st'⟩ := by
  cases h with
  | begin hbegin => exact lawful_of_same (fun _ => rfl) fun _ h => by cases h
  | finish hpending hfinish => exact lawful_finish hs (by simp [hpending]) hfinish
  | abandon hpending => exact lawful_of_same (fun _ => rfl) fun _ h => by cases h
  | tombstone htombstone =>
    obtain ⟨n, hstore⟩ := tombstone_of_source htombstone
    obtain ⟨row, hdead, hnumber, hget⟩ := getRevision_of_tombstone hstore
    rw [heldNumber_eq] at hnumber
    apply lawful_of_held (Moves.tombstoned hdead hnumber hget)
    intro p hp
    cases hp
  | upsertNodes hupsert =>
    obtain ⟨rows, rfl⟩ := upsertNodes_ok hupsert
    exact lawful_of_same (fun _ => rfl) fun _ h => by cases h
  | upsertEdges hupsert =>
    obtain ⟨rows, rfl⟩ := upsertEdges_ok hupsert
    exact lawful_of_same (fun _ => rfl) fun _ h => by cases h

end PostgresKnowledgeStore

/-! ## Section 4: Both stores -/

/-- Numbers of the PostgreSQL store grow with every accepted change, and no
    stale ingest undoes a tombstone; the in-memory store has this in exactly
    the runs in which each publication comes from a read of the revision that
    its source still holds. -/
theorem revisions_lawful_iff (sql : List (IngestTransition PostgresKnowledgeStore))
    (ts : List (IngestTransition InMemoryKnowledgeStore)) :
    (∀ st, IngestRun PostgresKnowledgeStore.publisher PostgresKnowledgeStore.empty sql st →
      ∀ t ∈ sql, Lawful PostgresKnowledgeStore.getRevision
        PostgresKnowledgeStore.collectionRevision t) ∧
    ∀ st, IngestRun InMemoryKnowledgeStore.publisher InMemoryKnowledgeStore.empty ts st →
      ((∀ t ∈ ts, Lawful InMemoryKnowledgeStore.getRevision
          InMemoryKnowledgeStore.collectionRevision t) ↔
        ∀ t ∈ ts, PublishesHeld InMemoryKnowledgeStore.getRevision t) := by
  constructor
  · intro st hrun t ht
    obtain ⟨earlier, -, hbefore, h⟩ := hrun.of_mem ht
    exact PostgresKnowledgeStore.lawful_step (PostgresKnowledgeStore.sound_of_run hbefore) h
  · intro st hrun
    exact InMemoryKnowledgeStore.lawful_iff_held hrun

/-! ### A race

    Two workers read a source that is not there yet.  The first publishes, the
    source is tombstoned, and the second publishes what it had prepared. -/

/-- A pipeline without graph records. -/
def plainPipeline : IngestionPipeline := { opsPipeline with extract := fun _ => .ok ([], []) }

def editedDocument : SourceDocument :=
  { faqDocument with
    text := "pager list"
    text_ne := by decide
    text_null := by decide }

/-- The publication that an ingest prepares on an in-memory store. -/
def prepared (store : InMemoryKnowledgeStore) (document : SourceDocument) :
    Raises PendingIngest := do
  let begun ← plainPipeline.begin InMemoryKnowledgeStore.publisher store document
    (.finite (whole 1))
  match begun with
  | .pending p => .ok p
  | .unchanged _ => .error (knowledgeError "nothing to publish")

theorem begin_of_prepared {store : InMemoryKnowledgeStore} {document : SourceDocument}
    {p : PendingIngest} (h : prepared store document = .ok p) :
    plainPipeline.begin InMemoryKnowledgeStore.publisher store document (.finite (whole 1)) =
      .ok (.pending p) := by
  unfold prepared at h
  rw [bind_ok] at h
  obtain ⟨begun, hbegin, h⟩ := h
  cases begun with
  | unchanged result => cases h
  | pending q =>
    obtain rfl := Except.ok.inj h
    exact hbegin

/-- The two publications and the store after each change. -/
structure Race where
  first : PendingIngest
  second : PendingIngest
  published : InMemoryKnowledgeStore × IngestionResult
  tombstoned : InMemoryKnowledgeStore × IngestionResult
  revived : InMemoryKnowledgeStore × IngestionResult

open InMemoryKnowledgeStore in
def race : Raises Race := do
  let first ← prepared empty faqDocument
  let second ← prepared empty editedDocument
  let published ← first.finish publisher empty
  let tombstoned ← tombstoneSource publisher published.1 faqDocument.key (.finite (whole 3))
  let revived ← second.finish publisher tombstoned.1
  pure ⟨first, second, published, tombstoned, revived⟩

/-- The number and the mark of what the FAQ's source holds. -/
def faqHolds (store : InMemoryKnowledgeStore) : Option (Nat × Bool) :=
  (store.getRevision faqDocument.key).map fun revision =>
    (revision.source_revision, revision.tombstoned)

/-- What the source holds after each change, and what the workers had read. -/
theorem race_eq : race.map (fun r =>
    ([faqHolds r.published.1, faqHolds r.tombstoned.1, faqHolds r.revived.1],
      [r.first.existing, r.second.existing],
      [r.first.publication.key, r.second.publication.key])) =
      .ok ([some (1, false), some (2, true), some (1, false)], [none, none],
        [faqDocument.key, faqDocument.key]) := by
  decide +kernel

open InMemoryKnowledgeStore in
/-- The race is a run: both read, then the changes in their order. -/
theorem race_run {r : Race} (h : race = .ok r) :
    IngestRun publisher empty
      [⟨⟨empty, []⟩, .begin r.first, ⟨empty, [r.first]⟩⟩,
        ⟨⟨empty, [r.first]⟩, .finish r.first, ⟨r.published.1, []⟩⟩] ⟨r.published.1, []⟩ ∧
    IngestRun publisher empty
      [⟨⟨empty, []⟩, .begin r.first, ⟨empty, [r.first]⟩⟩,
        ⟨⟨empty, [r.first]⟩, .begin r.second, ⟨empty, [r.second, r.first]⟩⟩,
        ⟨⟨empty, [r.second, r.first]⟩, .finish r.first, ⟨r.published.1, [r.second]⟩⟩,
        ⟨⟨r.published.1, [r.second]⟩, .tombstone faqDocument.key, ⟨r.tombstoned.1, [r.second]⟩⟩,
        ⟨⟨r.tombstoned.1, [r.second]⟩, .finish r.second, ⟨r.revived.1, []⟩⟩] ⟨r.revived.1, []⟩ := by
  unfold race at h
  rw [bind_ok] at h
  obtain ⟨first, hfirst, h⟩ := h
  rw [bind_ok] at h
  obtain ⟨second, hsecond, h⟩ := h
  rw [bind_ok] at h
  obtain ⟨⟨s₁, result₁⟩, hpublished, h⟩ := h
  rw [bind_ok] at h
  obtain ⟨⟨s₂, result₂⟩, htombstoned, h⟩ := h
  rw [bind_ok] at h
  obtain ⟨⟨s₃, result₃⟩, hrevived, h⟩ := h
  obtain rfl := pure_ok.mp h
  have hbegun := IngestRun.nil.step (@IngestStep.begin _ _ ⟨empty, []⟩ _ _ _ _ (begin_of_prepared hfirst))
  constructor
  · exact hbegun.step (@IngestStep.finish _ _ _ first [] [] _ _ rfl hpublished)
  · have hread := hbegun.step (IngestStep.begin (begin_of_prepared hsecond))
    have hone := hread.step (@IngestStep.finish _ _ _ first [second] [] _ _ rfl hpublished)
    have htwo := hone.step (IngestStep.tombstone htombstoned)
    exact htwo.step (@IngestStep.finish _ _ _ second [] [] _ _ rfl hrevived)

open InMemoryKnowledgeStore in
/-- The first worker alone is lawful. -/
theorem revisions_lawful_alone :
    ∃ ts st, IngestRun publisher empty ts st ∧ faqHolds st.store = some (1, false) ∧
      ∀ t ∈ ts, Lawful getRevision collectionRevision t := by
  obtain ⟨r, hrace, hfields⟩ := map_ok.mp race_eq
  simp only [Prod.mk.injEq, List.cons.injEq] at hfields
  obtain ⟨⟨hpublished, -⟩, ⟨hexisting, -⟩, hkey, -⟩ := hfields
  obtain ⟨hrun, -⟩ := race_run hrace
  refine ⟨_, _, hrun, hpublished, ((revisions_lawful_iff [] _).2 _ hrun).mpr ?_⟩
  intro t ht p hp
  rcases List.mem_cons.mp ht with rfl | ht
  · cases hp
  · obtain rfl := List.mem_singleton.mp ht
    obtain rfl := IngestEvent.finish.inj hp
    rw [hkey, hexisting]
    rfl

open InMemoryKnowledgeStore in
/-- The second worker makes the tombstoned source live again and takes its number
    back from two to one. -/
theorem stale_ingest_revives :
    ∃ ts st, IngestRun publisher empty ts st ∧ ∃ t ∈ ts, ∃ p, t.event = .finish p ∧
      p.existing = none ∧ faqHolds t.before.store = some (2, true) ∧
      faqHolds t.after.store = some (1, false) ∧
      ¬ Lawful getRevision collectionRevision t := by
  obtain ⟨r, hrace, hfields⟩ := map_ok.mp race_eq
  simp only [Prod.mk.injEq, List.cons.injEq] at hfields
  obtain ⟨⟨-, htombstoned, hrevived, -⟩, ⟨-, hexisting, -⟩, -, hkey, -⟩ := hfields
  obtain ⟨-, hrun⟩ := race_run hrace
  refine ⟨_, _, hrun, ⟨⟨r.tombstoned.1, [r.second]⟩, .finish r.second, ⟨r.revived.1, []⟩⟩,
    by simp, r.second, rfl, hexisting, htombstoned, hrevived, ?_⟩
  intro hlawful
  obtain ⟨tombstone, hheld, hmark⟩ := Option.map_eq_some_iff.mp htombstoned
  obtain ⟨revision, hafter, hlive⟩ := Option.map_eq_some_iff.mp hrevived
  have hread := hlawful.no_revival r.second rfl tombstone (hkey ▸ hheld)
    (Prod.mk.inj hmark).2 revision (hkey ▸ hafter) (Prod.mk.inj hlive).2
  rw [hexisting] at hread
  cases hread

end CBrain.Knowledge
