import TokenClient.Proofs.Session.Handout
import TokenClient.Proofs.Session.WireTemplate
import TokenClient.Proofs.SoftToken.Agreement
import TokenClient.Proofs.SoftToken.Contexts
import TokenClient.Proofs.SoftToken.Reach

/-!
# Searches of all objects on the token in memory

The token settles at the start of a search which objects match, and gives them out in batches, a full one
perhaps with its first handle once more at the end. The client takes a hundred handles at a time and drops
what it has seen. So nothing is lost and nothing comes twice, also where the number of matches is a
multiple of the batch size and where the repeated handle comes past the limit: what a batch adds are the next
handles that the token has yet to give (`freshHandles_append`), and the handles that the
client has and those that the token has yet to give are always the matches (`SoftToken.run_collect`).

The main result (`SoftToken.findAll_complete`) describes the matches by what the objects store, and adds that
an object is found by the attributes that it was made with.
-/

namespace TokenClient

namespace SoftToken

open Registry

variable {token : SoftToken} {session : Session} {handle : Code} {cursor : FindCursor}
  {pending : List Code}

/-- The search on a session has these handles yet to give, and nothing keeps it from giving them. -/
structure Gives (token : SoftToken) (handle : Code) (pending : List Code) : Prop where
  advances : token.stuckFind = false
  answers : token.findError = none
  pending : ∃ opened, token.sessions.get? handle = some opened ∧ opened.find = some pending

/-! ## What the token answers -/

private theorem answer_findObjectsInit (token : SoftToken) (handle : Code) (template : List WireAttribute) :
    SoftToken.module.answer (.inSession handle (.findObjectsInit template)) token =
      plainly (⟨·, ()⟩)
        ((token.count (Command.name (.findObjectsInit template))).startFind handle template) := rfl

private theorem answer_findObjects (token : SoftToken) (handle : Code) (max : UInt64) :
    SoftToken.module.answer (.inSession handle (.findObjects max)) token =
      plainly (⟨·, ()⟩) ((token.count (Command.name (.findObjects max))).find handle max) := rfl

private theorem answer_findObjectsFinal (token : SoftToken) (handle : Code) :
    SoftToken.module.answer (.inSession handle .findObjectsFinal) token =
      plainly (⟨·, ()⟩) ((token.count (Command.name .findObjectsFinal)).endFind handle) := rfl

/-- A search that starts has the matching handles to give. -/
theorem gives_startFind {opened : OpenSession} (advances : token.stuckFind = false)
    (answers : token.findError = none) (known : token.sessions.get? handle = some opened)
    (quiet : opened.find = none) (template : List WireAttribute) :
    ∃ later, token.startFind handle template = (.ok (), later) ∧
      later.Gives handle (token.findMatches template) := by
  let searching := { opened with find := some (token.findMatches template) }
  refine ⟨token.withSession handle searching, ?_, advances, answers, searching,
    get?_withSession known searching, rfl⟩
  rw [startFind, update_eq known]
  simp only [quiet]
  rfl

/-- A token whose searches advance gives the next handles, perhaps the first one of them again. -/
theorem nextBatch_eq (advances : token.stuckFind = false) (pending : List Code) (max : Nat) :
    ∃ again, again ⊆ pending.take max ∧
      token.nextBatch pending max = (pending.take max ++ again, pending.drop max) := by
  rw [nextBatch, advances]
  cases token.repeatFind with
  | false => exact ⟨[], List.nil_subset _, by simp⟩
  | true => exact ⟨(pending.take max).take 1, List.take_subset 1 _, rfl⟩

/-- A pull takes its share of the pending handles, repeats some of them at most, and leaves the rest pending. -/
theorem Gives.find (gives : token.Gives handle pending) (max : UInt64) :
    ∃ again later, token.find handle max = (.ok (pending.take max.toNat ++ again), later) ∧
      again ⊆ pending.take max.toNat ∧ later.Gives handle (pending.drop max.toNat) := by
  obtain ⟨advances, answers, opened, known, hpending⟩ := gives
  obtain ⟨again, hagain, hbatch⟩ := nextBatch_eq advances pending max.toNat
  let cleared := { token with findError := none }
  let advanced := { opened with find := some (pending.drop max.toNat) }
  have hknown : cleared.sessions.get? handle = some opened := known
  refine ⟨again, cleared.withSession handle advanced, ?_, hagain, advances, rfl, advanced,
    get?_withSession hknown advanced, rfl⟩
  rw [SoftToken.find, update_eq hknown]
  simp only [hpending, answers, hbatch]
  rfl

/-- A search that runs can be ended. -/
theorem Gives.endFind (gives : token.Gives handle pending) : (token.endFind handle).1 = .ok () := by
  obtain ⟨-, -, opened, known, hpending⟩ := gives
  rw [SoftToken.endFind, update_eq known]
  simp only [hpending]

/-- Counting a call leaves the search alone. -/
theorem Gives.count (gives : token.Gives handle pending) (name : String) :
    (token.count name).Gives handle pending := ⟨gives.advances, gives.answers, gives.pending⟩

/-! ## What the client makes of it -/

/-- The handles that the client has and those that the token has yet to give are in the end what the client
has. -/
theorem run_collect (gives : token.Gives handle pending) (new : (cursor.returned ++ pending).Nodup) :
    ((Session.collect handle cursor).run SoftToken.module token).1 =
        .ok (cursor.returned ++ pending) ∧
      ∃ rest, ((Session.collect handle cursor).run SoftToken.module token).2.Gives handle rest := by
  -- What has been returned and what is pending add up to the same list all the way.
  fun_induction Session.collect handle cursor generalizing token pending with
  | case1 cursor ih =>
    obtain ⟨again, later, hfind, hagain, hlater⟩ :=
      (gives.count (Command.name (.findObjects Session.batchSize))).find Session.batchSize
    have hsplit := List.take_append_drop Session.batchSize.toNat pending
    have hfirst : (cursor.returned ++ pending.take Session.batchSize.toNat).Nodup := by
      rw [← hsplit, ← List.append_assoc] at new
      exact (List.nodup_append.1 new).1
    have hfresh : cursor.fresh Session.batchSize (pending.take Session.batchSize.toNat ++ again) =
        pending.take Session.batchSize.toNat := by
      refine freshHandles_append (List.length_take_le ..) hfirst ?_
      exact List.Subset.trans hagain (List.subset_append_right ..)
    simp only [Program.run, answer_findObjects, plainly, hfind]
    split
    next hempty =>
      rw [hfresh] at hempty
      obtain rfl : pending = [] := by simpa [Session.batchSize] using hempty
      refine ⟨by simp, _, hlater⟩
    next hnew =>
      have hreturned : (cursor.advance Session.batchSize
          (pending.take Session.batchSize.toNat ++ again)).returned ++ pending.drop Session.batchSize.toNat =
            cursor.returned ++ pending := by
        rw [FindCursor.returned_advance, hfresh, List.append_assoc, hsplit]
      rw [← hreturned] at new ⊢
      exact ih _ hnew hlater new

/-- Matches are found in ascending order. -/
private theorem nodup_findMatches (sorted : token.objects.Sorted) (template : List WireAttribute) :
    (token.findMatches template).Pairwise (· < ·) := sorted.filter _

/-- An object matches iff it holds every entry of the template. -/
private theorem mem_findMatches (sorted : token.objects.Sorted) {template : List WireAttribute} {object : Code} :
    object ∈ token.findMatches template ↔ ∃ stored, token.objects.get? object = some stored ∧
      ∀ entry ∈ template, stored.get? entry.type = some entry.value := by
  rw [findMatches, handles, List.mem_map]
  constructor
  · rintro ⟨⟨_, stored⟩, hmem, rfl⟩
    obtain ⟨hstored, hmatch⟩ := List.mem_filter.1 hmem
    exact ⟨stored, sorted.get?_eq_some_iff.2 hstored, StoredObject.isMatch_iff.1 hmatch⟩
  · rintro ⟨stored, hstored, hmatch⟩
    refine ⟨(object, stored), List.mem_filter.2 ⟨sorted.get?_eq_some_iff.1 hstored, ?_⟩, rfl⟩
    exact StoredObject.isMatch_iff.2 hmatch

/-- What a session finds on the token is what matches. -/
theorem result_findAll {opened : OpenSession} (advances : token.stuckFind = false)
    (answers : token.findError = none) (isOpen : session.handle = some handle)
    (idle : session.active = .empty) (known : token.sessions.get? handle = some opened)
    (quiet : opened.find = none) (sorted : token.objects.Sorted) (template : Template) :
    token.result (session.findAll template) = .ok (token.findMatches (session.wireTemplate template)) := by
  have check : session.tracker.checkSearch = .ok () := by
    rw [Tracker.checkSearch, show session.tracker.active = .empty from idle]
    rfl
  have stillOpen : ({ session with tracker := session.tracker.start .find } : Session).openHandle =
      .ok handle := Session.openHandle_of_open isOpen
  obtain ⟨later, hstart, hlater⟩ :=
    @gives_startFind (token.count (Command.name (.findObjectsInit (session.wireTemplate template)))) handle
      opened advances answers known quiet (session.wireTemplate template)
  have hnew : (FindCursor.start.returned ++ token.findMatches (session.wireTemplate template)).Nodup :=
    (nodup_findMatches sorted _).imp fun h => UInt64.ne_of_lt h
  obtain ⟨hfound, rest, hrest⟩ := run_collect hlater hnew
  have hend := (hrest.count (Command.name .findObjectsFinal)).endFind
  rw [result, Session.findAll, Program.run_bind, Session.startFind, Session.openHandle_of_open isOpen]
  simp only [check, Program.request, Program.map, Program.run, answer_findObjectsInit, plainly, hstart,
    stillOpen, Program.run_bind, hfound, Session.endFind, answer_findObjectsFinal, hend]
  rfl

private theorem createObject_eq_ok {template : List WireAttribute} {object : Code}
    (created : (token.createObject handle template).1 = .ok object) :
    (token.createObject handle template).2.objects.get? object = some (.make template) := by
  unfold createObject at created ⊢
  split at created
  next => cases created
  next opened _ =>
    cases hrw : opened.isRw with
    | false =>
      rw [hrw] at created
      cases created
    | true =>
      rw [hrw] at created
      cases created
      simp only [*, if_true]
      exact (get?_enter ..).trans (if_pos rfl)

/-- What a session creates is stored under the handle that it gets. -/
theorem get?_after_createObject {creator : Session} {template : Template} {object : Code}
    (created : token.result (creator.createObject template) = .ok object) :
    (token.after (creator.createObject template)).objects.get? object =
      some (.make (creator.wireTemplate template)) := by
  unfold Session.createObject at created ⊢
  cases hopen : creator.handle with
  | none =>
    rw [result_forward_closed hopen] at created
    cases created
  | some handle =>
    rw [result_forward hopen] at created
    rw [after_forward hopen]
    exact createObject_eq_ok created

/-! ## The main result -/

/-- On any token that comes about, unless its searches are made to fail or to stand still, an idle session
without a search on the token finds exactly the objects that store every attribute of the template, each of
them once and in the order of the handles. So it finds an object that a session of the same client has
created, and that is stored as it was then, by any of the attributes that it was created with. -/
theorem findAll_complete {opened : OpenSession} (reachable : token.Reachable)
    (advances : token.stuckFind = false) (answers : token.findError = none)
    (isOpen : session.handle = some handle) (idle : session.active = .empty)
    (known : token.sessions.get? handle = some opened) (quiet : opened.find = none) (template : Template) :
    ∃ found, token.result (session.findAll template) = .ok found ∧ found.Pairwise (· < ·) ∧
      (∀ object, object ∈ found ↔ ∃ stored, token.objects.get? object = some stored ∧
        ∀ entry ∈ session.wireTemplate template, stored.get? entry.type = some entry.value) ∧
      ∀ (earlier : SoftToken) (creator : Session) (t : Template) (object : Code),
        creator.token.client = session.token.client → t.types.Nodup →
        earlier.result (creator.createObject t) = .ok object →
        token.objects.get? object = (earlier.after (creator.createObject t)).objects.get? object →
        (∀ a ∈ template.attributes, a ∈ t.attributes) → object ∈ found := by
  have sorted := reachable.sorted
  refine ⟨_, result_findAll advances answers isOpen idle known quiet sorted template,
    nodup_findMatches sorted _, fun object => mem_findMatches sorted, ?_⟩
  intro earlier creator t object sameClient distinct created unchanged subset
  rw [get?_after_createObject created] at unchanged
  refine (mem_findMatches sorted).2 ⟨_, unchanged, fun entry hentry => ?_⟩
  rw [Session.wireTemplate_eq_map] at hentry
  obtain ⟨a, ha, rfl⟩ := List.mem_map.1 hentry
  -- Both sessions translate and encode by the one client, so they search with what was stored.
  have hsame : session.wireAttribute a = creator.wireAttribute a := by
    rw [Session.wireAttribute, Session.wireAttribute, Session.codes, Session.codes, Session.encoding,
      Session.encoding, sameClient]
  have hmem : session.wireAttribute a ∈ creator.wireTemplate t := by
    rw [hsame, Session.wireTemplate_eq_map]
    exact List.mem_map_of_mem (subset a ha)
  have hdistinct : ((creator.wireTemplate t).map (·.type)).Nodup := by
    rwa [Session.types_wireTemplate]
  rw [StoredObject.get?_make hdistinct]
  exact StoredObject.valueIn_of_mem hdistinct hmem

/-- A token that repeats itself in searches, with a session under handle 1. -/
def repeating : SoftToken :=
  { (SoftToken.new.answer (.openSession tokenSlot (Flag.serialSession ||| Flag.rwSession))).2 with
    repeatFind := true }

/-- The description of an object with an identifier and some data. -/
def identified : Template :=
  ⟨[⟨0x102, .bytes, .held (.bytes [7])⟩, ⟨AttributeType.value, .bytes, .held (.bytes [1, 2])⟩]⟩

/-- The token with an object created from this description, and one with another identifier. -/
def withTwo : SoftToken :=
  ((repeating.after ((Session.opened (.bare 1) 1).createObject identified)).enterObject
    [⟨0x102, .bytes [8]⟩]).2

private theorem reachable_withTwo : withTwo.Reachable :=
  ((Reachable.switch (.answer .new _) false [] true false none).answer _).insert _

/-- The first object is found by its identifier, and the other one is not. -/
theorem findAll_complete_withTwo :
    ∃ found, withTwo.result ((Session.opened (.bare 1) 1).findAll
        ⟨[⟨0x102, .bytes, .held (.bytes [7])⟩]⟩) = .ok found ∧ 2 ∈ found ∧ 3 ∉ found := by
  obtain ⟨found, hfound, -, hmem, hcreated⟩ :=
    @findAll_complete withTwo (Session.opened (.bare 1) 1) 1 _ reachable_withTwo rfl rfl rfl rfl rfl rfl
      ⟨[⟨0x102, .bytes, .held (.bytes [7])⟩]⟩
  refine ⟨found, hfound, ?_, ?_⟩
  · refine hcreated repeating (Session.opened (.bare 1) 1) identified 2 rfl (by decide) rfl rfl ?_
    exact fun a ha => List.mem_singleton.1 ha ▸ List.mem_cons_self
  · intro h
    obtain ⟨stored, hstored, hentries⟩ := (hmem 3).1 h
    cases hstored
    cases hentries ⟨0x102, .bytes [7]⟩ List.mem_cons_self

end SoftToken

end TokenClient
