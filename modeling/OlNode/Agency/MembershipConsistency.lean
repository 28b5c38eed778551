import OlNode.Agency.Membership
import OlNode.Keyed
import OlNode.ReadCommitted.Journal

/-!
# Memberships are consistent

A join holds the primary key of the host and the row of the agency when it commits, so it never
finds a row of the host there. An exit is right if the row it deletes is still the row it has read,
and the deletion of an agency if the hosts it has let go are all there are. In runs where that is so,
the row of a host, its `currentAgencyId`, the count of the agency and the history agree.
-/
namespace OlNode.AgencyHosts

open ReadCommitted

structure Consistent (db : AgencyDb) : Prop where
  current : ∀ hostUserId agencyUserId,
    (∃ row ∈ db.hosts, row.hostUserId = hostUserId ∧ row.agencyUserId = agencyUserId) ↔
      db.currentAgencyId hostUserId = some agencyUserId
  counts : ∀ agency ∈ db.agencies, agency.totalHostsCount = (db.hostsOf agency.userId).length
  history : (db.history.map (·.membership)).Perm db.ended

/-- Where an exit deletes the row it has read, and the deletion of an agency has let go all of its
hosts. -/
def membershipJournal : Journal AgencyDb MembershipEvent where
  entries := (·.events)
  clear db e := match e with
    | .exited row => db.getHost row.hostUserId = some row
    | .agencyDeleted agencyUserId exits =>
      (exits.all fun row => db.getHost row.hostUserId = some row) &&
        (db.hostsOf agencyUserId).all fun row => row ∈ exits

structure Lawful (db : AgencyDb) : Prop where
  unique : (db.hosts.map (·.hostUserId)).Nodup
  owned : ∀ row ∈ db.hosts, db.hasAgency row.agencyUserId = true
  current : ∀ hostUserId,
    db.currentAgencyId hostUserId = (db.getHost hostUserId).map (·.agencyUserId)
  counts : ∀ agency ∈ db.agencies, agency.totalHostsCount = (db.hostsOf agency.userId).length
  history : db.history.map (·.membership) = db.ended

/-! ### Rows -/

variable {db : AgencyDb}

theorem getHost_of_mem (unique : (db.hosts.map (·.hostUserId)).Nodup) {row : Membership}
    (member : row ∈ db.hosts) : db.getHost row.hostUserId = some row :=
  Keyed.find?_of_mem unique member

theorem Lawful.consistent (lawful : Lawful db) : Consistent db where
  current hostUserId agencyUserId := by
    rw [lawful.current]
    constructor
    · rintro ⟨row, member, rfl, rfl⟩
      rw [getHost_of_mem lawful.unique member, Option.map_some]
    · intro found
      obtain ⟨row, rowFound, same⟩ := Option.map_eq_some_iff.mp found
      have own : row.hostUserId = hostUserId := by simpa using List.find?_some rowFound
      exact ⟨row, List.mem_of_find?_eq_some rowFound, own, same⟩
  counts := lawful.counts
  history := lawful.history ▸ List.Perm.refl _

theorem Lawful.record (lawful : Lawful db) (e : MembershipEvent) :
    Lawful (db.record e) :=
  ⟨lawful.unique, lawful.owned, lawful.current, lawful.counts, lawful.history⟩

structure Alike (s t : AgencyDb) : Prop where
  hosts : t.hosts = s.hosts
  current : t.currentAgencyId = s.currentAgencyId
  history : t.history = s.history
  ended : t.ended = s.ended
  events : t.events = s.events
  agencies : t.agencies.map (fun agency => (agency.userId, agency.totalHostsCount)) =
    s.agencies.map fun agency => (agency.userId, agency.totalHostsCount)

theorem Alike.getHost {s t : AgencyDb} (alike : Alike s t) (hostUserId : UserId) :
    t.getHost hostUserId = s.getHost hostUserId := by
  simp only [AgencyDb.getHost, alike.hosts]

theorem Alike.hasAgency {s t : AgencyDb} (alike : Alike s t) (agencyUserId : UserId) :
    t.hasAgency agencyUserId = s.hasAgency agencyUserId := by
  have ids : t.agencies.map (·.userId) = s.agencies.map (·.userId) := by
    have pairs := congrArg (List.map Prod.fst) alike.agencies
    simpa only [List.map_map, Function.comp_def] using pairs
  have any : ∀ agencies : List Agency, (agencies.any (·.userId = agencyUserId)) =
      (agencies.map (·.userId)).any (· = agencyUserId) := fun agencies => by
    rw [List.any_map]
    rfl
  unfold AgencyDb.hasAgency
  rw [any, any, ids]

theorem Lawful.alike {s t : AgencyDb} (lawful : Lawful s) (alike : Alike s t) : Lawful t where
  unique := alike.hosts ▸ lawful.unique
  owned row member := by
    rw [alike.hasAgency]
    exact lawful.owned row (alike.hosts ▸ member)
  current hostUserId := by
    rw [alike.current, alike.getHost]
    exact lawful.current hostUserId
  counts agency member := by
    have pair : (agency.userId, agency.totalHostsCount) ∈
        s.agencies.map fun agency => (agency.userId, agency.totalHostsCount) := by
      rw [← alike.agencies]
      exact List.mem_map_of_mem member
    obtain ⟨old, oldMember, same⟩ := List.mem_map.mp pair
    obtain ⟨id, count⟩ := Prod.mk.injEq .. ▸ same
    unfold AgencyDb.hostsOf
    rw [alike.hosts, ← id, ← count]
    exact lawful.counts old oldMember
  history := by
    rw [alike.history, alike.ended]
    exact lawful.history

/-! ### Statements -/

private theorem hasAgency_increment (db : AgencyDb) (agencyUserId other : UserId) (delta : Int) :
    (db.incrementHostCount agencyUserId delta).hasAgency other = db.hasAgency other := by
  unfold AgencyDb.hasAgency AgencyDb.incrementHostCount
  rw [List.any_map]
  congr 1
  funext agency
  simp only [Function.comp]
  split <;> rfl

private theorem counts_increment {s t : AgencyDb}
    (counts : ∀ agency ∈ s.agencies, agency.totalHostsCount = (s.hostsOf agency.userId).length)
    {agencyUserId : UserId} {delta : Int}
    (agencies : t.agencies = (s.incrementHostCount agencyUserId delta).agencies)
    (own : ((t.hostsOf agencyUserId).length : Int) = (s.hostsOf agencyUserId).length + delta)
    (others : ∀ other, other ≠ agencyUserId →
      (t.hostsOf other).length = (s.hostsOf other).length) :
    ∀ agency ∈ t.agencies, agency.totalHostsCount = (t.hostsOf agency.userId).length := by
  intro agency member
  rw [agencies] at member
  obtain ⟨old, oldMember, rfl⟩ := List.mem_map.mp member
  by_cases same : old.userId = agencyUserId
  · rw [if_pos same]
    dsimp only
    rw [counts old oldMember, same, own]
  · rw [if_neg same, counts old oldMember, others old.userId same]

private theorem join_lawful (lawful : Lawful db) {m : Membership}
    (free : db.getHost m.hostUserId = none) (found : db.hasAgency m.agencyUserId = true) :
    Lawful (db.join m) := by
  have absent : ∀ row ∈ db.hosts, row.hostUserId ≠ m.hostUserId := by
    simpa [AgencyDb.getHost] using free
  refine ⟨?_, fun row member => ?_, fun hostUserId => ?_, ?_, lawful.history⟩
  · change ((db.hosts ++ [m]).map (·.hostUserId)).Nodup
    rw [List.map_append]
    refine List.nodup_append.mpr ⟨lawful.unique, List.nodup_singleton _, ?_⟩
    intro host member other last same
    obtain ⟨row, rowMember, rfl⟩ := List.mem_map.mp member
    rw [List.map_singleton, List.mem_singleton] at last
    exact absent row rowMember (same.trans last)
  · unfold AgencyDb.join
    rw [hasAgency_increment]
    rcases List.mem_append.mp member with old | last
    · exact lawful.owned row old
    · rw [List.mem_singleton.mp last]
      exact found
  · change Function.update db.currentAgencyId m.hostUserId (some m.agencyUserId) hostUserId =
      ((db.hosts ++ [m]).find? (·.hostUserId = hostUserId)).map (·.agencyUserId)
    rw [List.find?_append]
    by_cases own : hostUserId = m.hostUserId
    · have none : db.hosts.find? (·.hostUserId = hostUserId) = none := own ▸ free
      rw [own, Function.update_self, ← own, none]
      simp [own]
    · have other : (decide (m.hostUserId = hostUserId)) = false := by simpa using Ne.symm own
      rw [Function.update_of_ne own, lawful.current]
      simp [AgencyDb.getHost, other]
  · refine counts_increment lawful.counts rfl ?_ fun other different => ?_
    · change (((db.hosts ++ [m]).filter (·.agencyUserId = m.agencyUserId)).length : Int) = _
      rw [List.filter_append, List.length_append]
      simp [AgencyDb.hostsOf]
    · change ((db.hosts ++ [m]).filter (·.agencyUserId = other)).length = _
      rw [List.filter_append, List.length_append]
      simp [AgencyDb.hostsOf, Ne.symm different]

private theorem length_remove (unique : (db.hosts.map (·.hostUserId)).Nodup) {m : Membership}
    (found : db.getHost m.hostUserId = some m) (agencyUserId : UserId) :
    ((db.removeHost m.hostUserId).hostsOf agencyUserId).length +
      (if m.agencyUserId = agencyUserId then 1 else 0) = (db.hostsOf agencyUserId).length := by
  have member : m ∈ db.hosts := List.mem_of_find?_eq_some found
  have parts := Keyed.perm_remove unique member
  have lengths := (parts.filter (·.agencyUserId = agencyUserId)).length_eq
  rw [List.filter_cons] at lengths
  rw [AgencyDb.hostsOf, AgencyDb.hostsOf, lengths]
  by_cases same : m.agencyUserId = agencyUserId
  · simp [same, AgencyDb.removeHost]
  · simp [same, AgencyDb.removeHost]

private theorem exit_lawful (lawful : Lawful db) {row : HistoryRow}
    (found : db.getHost row.membership.hostUserId = some row.membership) :
    Lawful (db.exit row) := by
  have member : row.membership ∈ db.hosts := List.mem_of_find?_eq_some found
  have lengths := length_remove lawful.unique found
  refine ⟨?_, fun other stays => ?_, fun hostUserId => ?_, ?_, ?_⟩
  · exact lawful.unique.sublist (List.filter_sublist.map Membership.hostUserId)
  · unfold AgencyDb.exit
    rw [hasAgency_increment]
    exact lawful.owned other (List.mem_of_mem_filter stays)
  · change Function.update db.currentAgencyId row.membership.hostUserId none hostUserId =
      ((db.hosts.filter (·.hostUserId ≠ row.membership.hostUserId)).find?
        (·.hostUserId = hostUserId)).map (·.agencyUserId)
    by_cases own : hostUserId = row.membership.hostUserId
    · rw [own, Function.update_self, Keyed.find?_filter_self]
      rfl
    · rw [Function.update_of_ne own, Keyed.find?_filter_ne own]
      exact lawful.current hostUserId
  · refine counts_increment lawful.counts rfl ?_ fun other different => ?_
    · have length := lengths row.membership.agencyUserId
      rw [if_pos rfl] at length
      change (((db.removeHost row.membership.hostUserId).hostsOf
        row.membership.agencyUserId).length : Int) = _
      omega
    · have length := lengths other
      rw [if_neg (Ne.symm different)] at length
      exact length
  · change (db.history ++ [row]).map (·.membership) =
      db.ended ++ db.hosts.filter (·.hostUserId = row.membership.hostUserId)
    rw [List.map_append, lawful.history, Keyed.filter_of_mem lawful.unique member]
    rfl

private theorem deleteAgency_lawful (lawful : Lawful db) {agencyUserId : UserId}
    (empty : db.hostsOf agencyUserId = []) : Lawful (db.deleteAgency agencyUserId) := by
  have others : ∀ row ∈ db.hosts, row.agencyUserId ≠ agencyUserId := by
    intro row member
    simpa using List.filter_eq_nil_iff.mp empty row member
  have hosts : (db.deleteAgency agencyUserId).hosts = db.hosts :=
    List.filter_eq_self.mpr fun row member => decide_eq_true (others row member)
  refine ⟨?_, fun row member => ?_, fun hostUserId => ?_, fun agency member => ?_, ?_⟩
  · rw [hosts]
    exact lawful.unique
  · rw [hosts] at member
    obtain ⟨agency, agencyMember, same⟩ := List.any_eq_true.mp (lawful.owned row member)
    refine List.any_eq_true.mpr ⟨agency, List.mem_filter.mpr ⟨agencyMember, ?_⟩, same⟩
    rw [of_decide_eq_true same]
    exact decide_eq_true (others row member)
  · unfold AgencyDb.getHost
    rw [hosts]
    exact lawful.current hostUserId
  · unfold AgencyDb.hostsOf
    rw [hosts]
    exact lawful.counts agency (List.mem_of_mem_filter member)
  · change db.history.map (·.membership) = db.ended ++ db.hostsOf agencyUserId
    rw [empty, List.append_nil]
    exact lawful.history

private theorem getHost_exit {row : HistoryRow} {hostUserId : UserId}
    (other : hostUserId ≠ row.membership.hostUserId) :
    (db.exit row).getHost hostUserId = db.getHost hostUserId :=
  Keyed.find?_filter_ne other

private theorem exits_lawful (lawful : Lawful db) {rows : List HistoryRow}
    (present : ∀ row ∈ rows, db.getHost row.membership.hostUserId = some row.membership)
    (distinct : (rows.map (·.membership.hostUserId)).Nodup) :
    Lawful (rows.foldl AgencyDb.exit db) ∧
      ∀ other ∈ (rows.foldl AgencyDb.exit db).hosts,
        other ∈ db.hosts ∧ other.hostUserId ∉ rows.map (·.membership.hostUserId) := by
  induction rows generalizing db with
  | nil => exact ⟨lawful, fun other member => ⟨member, by simp⟩⟩
  | cons row rest ih =>
    rw [List.map_cons, List.nodup_cons] at distinct
    have first := exit_lawful lawful (present row List.mem_cons_self)
    have still : ∀ later ∈ rest, (db.exit row).getHost later.membership.hostUserId =
        some later.membership := by
      intro later member
      rw [getHost_exit fun same => distinct.1 (same ▸ List.mem_map_of_mem member)]
      exact present later (List.mem_cons_of_mem _ member)
    obtain ⟨after, stays⟩ := ih first still distinct.2
    refine ⟨after, fun other member => ?_⟩
    obtain ⟨before, outside⟩ := stays other member
    obtain ⟨stored, different⟩ := List.mem_filter.mp before
    refine ⟨stored, fun among => ?_⟩
    rcases List.mem_cons.mp among with own | later
    · exact absurd own (of_decide_eq_true different)
    · exact outside later

/-! ### What the locks protect -/

/-- The row of a host and the existence of an agency stay while they are locked. -/
def Same (lock : Lock) (s t : AgencyDb) : Prop :=
  match lock with
  | .host hostUserId => t.getHost hostUserId = s.getHost hostUserId
  | .agency agencyUserId => t.hasAgency agencyUserId = s.hasAgency agencyUserId
  | _ => True

def membershipAgreement : Agreement Request AgencyDb Lock where
  inv := Lawful
  grows _ _ := True
  same := Same
  step _ _ _ := True
  allows _ := membershipJournal.Allowed
  grows_refl _ := trivial
  grows_trans _ _ _ _ _ := trivial
  same_refl lock s := by cases lock <;> first | exact rfl | trivial
  same_trans lock s t u first second := by
    cases lock with
    | host _ => exact Eq.trans second first
    | agency _ => exact Eq.trans second first
    | _ => trivial

private theorem Alike.same {s t : AgencyDb} (alike : Alike s t) (lock : Lock) : Same lock s t := by
  cases lock with
  | host hostUserId => exact alike.getHost hostUserId
  | agency agencyUserId => exact alike.hasAgency agencyUserId
  | _ => trivial

private theorem join_same {m : Membership} {lock : Lock} (host : lock ≠ .host m.hostUserId) :
    Same lock db (db.join m) := by
  cases lock with
  | host hostUserId =>
    have other : (decide (m.hostUserId = hostUserId)) = false :=
      decide_eq_false fun same => host (same ▸ rfl)
    change (db.hosts ++ [m]).find? (·.hostUserId = hostUserId) = _
    rw [List.find?_append]
    simp [AgencyDb.getHost, other]
  | agency agencyUserId => exact hasAgency_increment _ _ _ _
  | _ => trivial

private theorem exits_same (db : AgencyDb) (rows : List HistoryRow) {lock : Lock}
    (hosts : ∀ row ∈ rows, lock ≠ .host row.membership.hostUserId) :
    Same lock db (rows.foldl AgencyDb.exit db) := by
  induction rows generalizing db with
  | nil => exact membershipAgreement.same_refl lock db
  | cons row rest ih =>
    have later := ih (db.exit row) fun other member => hosts other (List.mem_cons_of_mem _ member)
    refine membershipAgreement.same_trans lock _ _ _ ?_ later
    cases lock with
    | host hostUserId =>
      exact getHost_exit fun same => hosts row List.mem_cons_self (same ▸ rfl)
    | agency agencyUserId => exact hasAgency_increment _ _ _ _
    | _ => trivial

/-! ### Transactions -/

section Transactions

variable {request : Request} {α : Type} {held : Set Lock} {w : AgencyDb → AgencyDb} {s : AgencyDb}

private abbrev Committing (request : Request) (held : Set Lock) (w : AgencyDb → AgencyDb)
    (s : AgencyDb) : Prop :=
  ∀ t, membershipAgreement.Rely held s t → membershipAgreement.allows request (.commit w) t →
    membershipAgreement.Keeps request held t (w t)

private abbrev Kept (request : Request) (body : AgencyTx α) (held : Set Lock)
    (w : AgencyDb → AgencyDb) (s : AgencyDb) : Prop :=
  body.Relies membershipAgreement request (fun _ held w s => Committing request held w s)
    (fun _ _ => True) held w s

private theorem committing_alike (alike : ∀ u, Alike u (w u)) : Committing request held w s :=
  fun u rely _ => ⟨Lawful.alike rely.inv (alike u), trivial, fun lock _ => (alike u).same lock,
    trivial⟩

private theorem insertMembership_kept (alike : ∀ u, Alike u (w u))
    (agencyUserId hostUserId : UserId) :
    Kept request (insertMembership agencyUserId hostUserId) held w s := by
  refine Tx.relies_select fun t1 _ => Tx.relies_lockRow fun t2 _ _ => ?_
  refine Tx.relies_select fun t3 _ => Tx.relies_check fun absent => ?_
  refine Tx.relies_lockRow fun t4 rely4 _ => Tx.relies_lockRow fun t5 rely5 _ => ?_
  refine Tx.relies_select fun t6 rely6 =>
    Tx.relies_check fun found => ?_
  intro t7 rely7 _ u rely8 _
  rw [Option.isNone_iff_eq_none, (alike t3).getHost] at absent
  rw [(alike t6).hasAgency] at found
  have host : Lock.host hostUserId ∈ insert (Lock.host hostUserId) held := Set.mem_insert _ _
  have later : membershipAgreement.Rely (insert (Lock.user hostUserId)
      (insert (Lock.host hostUserId) held)) t4 u :=
    rely5.trans ((rely6.trans (rely7.trans (rely8.mono (Set.subset_insert _ _)))).mono
      (Set.subset_insert _ _))
  have free : u.getHost hostUserId = none :=
    (later.same (.host hostUserId) (Set.mem_insert_of_mem _ host)).trans
      ((rely4.same (.host hostUserId) host).trans absent)
  have agency : u.hasAgency agencyUserId = true := by
    have last := rely7.trans (rely8.mono (Set.subset_insert _ _))
    exact (last.same (.agency agencyUserId) (Set.mem_insert _ _)).trans found
  refine ⟨join_lawful (Lawful.alike rely8.inv (alike u)) ?_ ?_, trivial,
    fun lock free => ?_, trivial⟩
  · exact ((alike u).getHost hostUserId).trans free
  · exact ((alike u).hasAgency agencyUserId).trans agency
  · refine membershipAgreement.same_trans lock _ _ _ ((alike u).same lock) (join_same ?_)
    rintro rfl
    exact free (Set.mem_insert_of_mem _ (Set.mem_insert_of_mem _ (Set.mem_insert_of_mem _ host)))

private theorem exitRow_relies {ok : Unit → Set Lock → (AgencyDb → AgencyDb) → AgencyDb → Prop}
    {row : Membership} {reason : AgencyHostHistoryReason}
    (returns : ∀ exitedAt held' t, held ⊆ held' → .host row.hostUserId ∈ held' →
      ok () held' ((·.exit ⟨row, reason, exitedAt⟩) ∘ w) t) :
    (exitRow row reason).Relies membershipAgreement request ok (fun _ _ => True) held w s := by
  refine Tx.relies_select fun t1 _ => Tx.relies_lockRow fun t2 _ _ => ?_
  refine Tx.relies_select fun t3 _ => Tx.relies_check fun _ => ?_
  refine Tx.relies_lockRow fun t4 _ _ => Tx.relies_lockRow fun t5 _ _ => ?_
  refine Tx.relies_select fun t6 _ => Tx.relies_check fun _ => ?_
  intro t7 _ _
  have host : Lock.host row.hostUserId ∈ insert (Lock.host row.hostUserId) held :=
    Set.mem_insert _ _
  refine returns _ _ t7 (fun lock member => ?_) ?_
  · exact Set.mem_insert_of_mem _ (Set.mem_insert_of_mem _ (Set.mem_insert_of_mem _
      (Set.mem_insert_of_mem _ member)))
  · exact Set.mem_insert_of_mem _ (Set.mem_insert_of_mem _ (Set.mem_insert_of_mem _ host))

private theorem exitRead_kept (alike : ∀ u, Alike u (w u)) (reason : AgencyHostHistoryReason)
    (row : Option Membership) : Kept request (exitRead reason row) held w s := by
  cases row with
  | none => exact committing_alike alike
  | some row =>
    refine Tx.Relies.bind (exitRow_relies fun exitedAt held' t _ host => ?_)
    intro t1 _ _ u rely allowed
    have present : u.getHost row.hostUserId = some row := by
      have clear := allowed (.exited row)
        (congrArg (· ++ [MembershipEvent.exited row]) (alike u).events)
      exact of_decide_eq_true clear
    have before : Lawful (w u) := Lawful.alike rely.inv (alike u)
    have after : Lawful ((w u).exit ⟨row, reason, exitedAt⟩) :=
      exit_lawful before (((alike u).getHost row.hostUserId).trans present)
    refine ⟨after.record (.exited row), trivial, fun lock free => ?_, trivial⟩
    have exits : Same lock (w u) ((w u).exit ⟨row, reason, exitedAt⟩) := by
      refine exits_same (w u) [⟨row, reason, exitedAt⟩] fun other member => ?_
      rw [List.mem_singleton.mp member]
      rintro rfl
      exact free (Set.mem_insert_of_mem _ host)
    have recorded := membershipAgreement.same_trans lock _ _ _ ((alike u).same lock) exits
    cases lock with
    | host _ => exact recorded
    | agency _ => exact recorded
    | _ => trivial

private theorem finalizeAgencyHostExit_kept (alike : ∀ u, Alike u (w u))
    (agencyUserId hostUserId : UserId) (reason : AgencyHostHistoryReason) :
    Kept request (finalizeAgencyHostExit agencyUserId hostUserId reason) held w s :=
  Tx.relies_select fun _ _ => exitRead_kept alike reason _

/-- The loop of a deleted agency writes the exits of some of the hosts it has listed. -/
private theorem exitAll_relies {agentUserId : UserId} {reason : AgencyHostHistoryReason}
    {ok : List Membership → Set Lock → (AgencyDb → AgencyDb) → AgencyDb → Prop}
    {ids : List UserId} (done : List HistoryRow)
    (returns : ∀ (rows : List HistoryRow) held' t,
      (rows.map (·.membership.hostUserId)).Sublist ids → held ⊆ held' →
      (∀ row ∈ rows, .host row.membership.hostUserId ∈ held') →
      ok (rows.map (·.membership)) held' (fun db => (done ++ rows).foldl AgencyDb.exit db) t) :
    (exitAll agentUserId reason ids).Relies membershipAgreement request ok (fun _ _ => True) held
      (fun db => done.foldl AgencyDb.exit db) s := by
  induction ids generalizing ok done held s with
  | nil =>
    have last := returns [] held s (List.Sublist.refl _) subset_rfl (by simp)
    rw [List.append_nil] at last
    exact last
  | cons hostUserId more ih =>
    refine Tx.relies_select fun t rely => ?_
    cases found : ((done.foldl AgencyDb.exit t).getHost hostUserId).filter
        (·.agencyUserId = agentUserId) with
    | none =>
      refine Tx.Relies.bind (Tx.relies_pure (Tx.Relies.bind ?_))
      refine ih done fun rows held' u sub more' locked => ?_
      exact returns rows held' u (sub.cons hostUserId) more' locked
    | some row =>
      have own : row.hostUserId = hostUserId := by
        obtain ⟨first, -⟩ := Option.filter_eq_some_iff.mp found
        simpa using List.find?_some first
      refine Tx.Relies.bind (exitRow_relies fun exitedAt held' u sub host => ?_)
      have written : (fun db : AgencyDb => db.exit ⟨row, reason, exitedAt⟩) ∘
          (fun db => done.foldl AgencyDb.exit db) =
          fun db => (done ++ [(⟨row, reason, exitedAt⟩ : HistoryRow)]).foldl AgencyDb.exit db := by
        funext db
        rw [List.foldl_append]
        rfl
      rw [written]
      refine Tx.Relies.bind (ih _ fun rows held'' v subRows more' locked => ?_)
      have all := returns (⟨row, reason, exitedAt⟩ :: rows) held'' v ?_ (sub.trans more') ?_
      · rw [List.append_assoc]
        exact all
      · rw [List.map_cons, own]
        exact subRows.cons_cons hostUserId
      · intro other member
        rcases List.mem_cons.mp member with rfl | among
        · exact more' host
        · exact locked other among

private theorem events_exits (db : AgencyDb) (rows : List HistoryRow) :
    (rows.foldl AgencyDb.exit db).events = db.events := by
  induction rows generalizing db with
  | nil => rfl
  | cons row rest ih => exact ih (db.exit row)

private theorem hosts_exits (db : AgencyDb) (rows : List HistoryRow) :
    (rows.foldl AgencyDb.exit db).hosts =
      db.hosts.filter fun m => m.hostUserId ∉ rows.map (·.membership.hostUserId) := by
  induction rows generalizing db with
  | nil => simp
  | cons row rest ih =>
    have first : (db.exit row).hosts =
        db.hosts.filter (·.hostUserId ≠ row.membership.hostUserId) := rfl
    rw [List.foldl_cons, ih, first, List.filter_filter]
    congr 1
    funext m
    rw [Bool.and_comm, List.map_cons]
    simp

private theorem deleteAgency_same {db : AgencyDb} {agencyUserId : UserId}
    (empty : db.hostsOf agencyUserId = []) {lock : Lock} (other : lock ≠ .agency agencyUserId) :
    Same lock db (db.deleteAgency agencyUserId) := by
  cases lock with
  | host hostUserId =>
    have hosts : (db.deleteAgency agencyUserId).hosts = db.hosts :=
      List.filter_eq_self.mpr fun row member => by
        simpa using List.filter_eq_nil_iff.mp empty row member
    simp only [Same, AgencyDb.getHost, hosts]
  | agency otherUserId =>
    have different : otherUserId ≠ agencyUserId := fun same => other (same ▸ rfl)
    change (db.agencies.filter (·.userId ≠ agencyUserId)).any (·.userId = otherUserId) =
      db.agencies.any (·.userId = otherUserId)
    rw [List.any_filter]
    congr 1
    funext agency
    by_cases own : agency.userId = otherUserId
    · simp [own, different]
    · simp [own]
  | _ => trivial

variable (agentUserId : UserId)

/-- `done`: what the transaction has already written. -/
private theorem handleAgentAccountDeletion_kept (reason : AgencyHostHistoryReason)
    {done : List HistoryRow} (once : (done.map (·.membership.hostUserId)).Nodup)
    (held_done : ∀ row ∈ done, .host row.membership.hostUserId ∈ held) :
    Kept request (handleAgentAccountDeletion agentUserId reason (done.map (·.membership))) held
      (fun db => done.foldl AgencyDb.exit db) s := by
  refine Tx.relies_select fun t rely => ?_
  refine Tx.Relies.bind (exitAll_relies done fun later held' u sub more laterLocked => ?_)
  intro v _ _ x relyX allowed
  -- The hosts that are listed are others than those who are already gone.
  have distinct : ((done ++ later).map (·.membership.hostUserId)).Nodup := by
    have stored : ((done.foldl AgencyDb.exit t).hosts.map (·.hostUserId)).Nodup := by
      rw [hosts_exits]
      exact (rely.inv : Lawful t).unique.sublist (List.filter_sublist.map Membership.hostUserId)
    rw [List.map_append, List.nodup_append]
    refine ⟨once,
      (stored.sublist (List.filter_sublist.map Membership.hostUserId)).sublist sub, ?_⟩
    rintro gone among _ listed rfl
    obtain ⟨m, own, same⟩ := List.mem_map.mp (sub.subset listed)
    have left := List.mem_of_mem_filter own
    rw [hosts_exits, List.mem_filter, same] at left
    simp [among] at left
  rw [← List.map_append] at allowed ⊢
  obtain ⟨rows, split⟩ : ∃ rows, rows = done ++ later := ⟨_, rfl⟩
  have locked : ∀ row ∈ rows, .host row.membership.hostUserId ∈ held' := by
    intro row member
    rw [split] at member
    rcases List.mem_append.mp member with first | second
    · exact more (held_done row first)
    · exact laterLocked row second
  rw [← split] at allowed distinct ⊢
  have clear := allowed (.agencyDeleted agentUserId (rows.map (·.membership)))
    (congrArg (· ++ [_]) (events_exits x rows))
  simp only [membershipJournal, Bool.and_eq_true, List.all_eq_true, decide_eq_true_eq,
    List.mem_map, forall_exists_index, and_imp, forall_apply_eq_imp_iff₂] at clear
  obtain ⟨present, listed⟩ := clear
  obtain ⟨after, stays⟩ := exits_lawful relyX.inv present distinct
  -- Every host of the agency was listed and is gone.
  have empty : (rows.foldl AgencyDb.exit x).hostsOf agentUserId = [] := by
    refine List.filter_eq_nil_iff.mpr fun row member own => ?_
    obtain ⟨stored, outside⟩ := stays row member
    obtain ⟨exit, exitMember, same⟩ := listed row (List.mem_filter.mpr ⟨stored, own⟩)
    exact outside (same ▸ List.mem_map_of_mem exitMember)
  refine ⟨(deleteAgency_lawful after empty).record _, trivial, fun lock free => ?_, trivial⟩
  have exited : Same lock x (rows.foldl AgencyDb.exit x) := by
    refine exits_same x rows fun row member => ?_
    rintro rfl
    exact free (Set.mem_insert_of_mem _ (locked row member))
  have deleted : Same lock (rows.foldl AgencyDb.exit x)
      ((rows.foldl AgencyDb.exit x).deleteAgency agentUserId) := by
    refine deleteAgency_same empty ?_
    rintro rfl
    exact free (Set.mem_insert _ _)
  have recorded := membershipAgreement.same_trans lock _ _ _ exited deleted
  cases lock with
  | host _ => exact recorded
  | agency _ => exact recorded
  | _ => trivial

/-! ### Handlers -/

private abbrev Served (request : Request) (p : AgencyProg α) (s : AgencyDb) : Prop :=
  p.Abides membershipAgreement request s

private theorem transaction_served {body : AgencyTx α} (kept : Kept request body ∅ id s) :
    Served request (Prog.transaction body) s :=
  Prog.relies_transaction (kept.imp
    (fun _ _ _ _ committing t rely allowed => ⟨committing t rely allowed, trivial⟩)
    fun _ _ _ => trivial)

private theorem forget_served {p : AgencyProg α} (served : Served request p s) :
    Served request (p >>= fun _ => pure ()) s :=
  Prog.Relies.bind served (fun _ _ _ => Prog.relies_pure trivial) fun _ _ _ => trivial

private theorem autocommit_served {lock : Lock} {f : AgencyDb → AgencyDb}
    (alike : ∀ u, Alike u (f u)) : Served request (Prog.autocommit lock f) s :=
  Prog.relies_autocommit fun _ _ _ _ rely allowed =>
    ⟨committing_alike alike _ rely allowed, trivial⟩

variable (applicationId : Nat)

private theorem joinAgency_served (agencyUserId hostUserId : UserId) (s : AgencyDb) :
    Served request (joinAgency applicationId agencyUserId hostUserId) s := by
  have body : Kept request (joinAccepted applicationId agencyUserId hostUserId) ∅ id s := by
    refine Tx.relies_update fun t _ _ => insertMembership_kept (fun u => ?_) _ _
    exact ⟨rfl, rfl, rfl, rfl, rfl, rfl⟩
  refine Prog.relies_run (body.imp (fun _ _ _ _ committing t rely allowed => ?_) fun _ _ _ => ?_)
  · exact ⟨committing t rely allowed, Prog.relies_pure trivial⟩
  · exact Prog.relies_fail trivial

private theorem applyToAgency_served (env : Environment) (applicationId : Nat)
    (hostUserId agencyUserId : UserId) (gates : Bool) (s : AgencyDb) :
    Served request (applyToAgency env applicationId hostUserId agencyUserId gates) s := by
  refine Prog.relies_select fun t1 _ => ?_
  refine Prog.relies_check fun _ => ?_
  refine Prog.relies_check fun _ => ?_
  refine Prog.relies_check fun _ => ?_
  refine Prog.relies_select fun t2 _ => ?_
  refine Prog.relies_check fun _ => ?_
  have cooldown : Served request (assertJoinCooldown env hostUserId) t2 := by
    refine Prog.relies_select fun t3 _ => Prog.relies_select fun t4 _ => ?_
    cases (t3.recentExit hostUserId).all fun exitedAt => exitedAt + env.rejoinCooldownMs ≤ t4.now
    · exact ⟨rfl, rfl, trivial⟩
    · exact ⟨rfl, rfl, trivial⟩
  exact Prog.Relies.bind cooldown
    (fun _ t _ => joinAgency_served applicationId agencyUserId hostUserId t) fun _ _ _ => trivial

private theorem adminAddHost_served (agencyUserId hostUserId : UserId) (gates : Bool)
    (s : AgencyDb) :
    Served request (adminAddHost applicationId agencyUserId hostUserId gates) s := by
  refine Prog.relies_select fun t1 _ => ?_
  refine Prog.relies_check fun _ => ?_
  refine Prog.relies_check fun _ => ?_
  refine Prog.relies_select fun t2 _ => ?_
  refine Prog.relies_check fun _ => ?_
  exact joinAgency_served applicationId agencyUserId hostUserId t2

private theorem acceptApplication_served (applicationId : Nat) (s : AgencyDb) :
    Served request (acceptApplication agentUserId applicationId) s := by
  refine transaction_served (Tx.relies_select fun t _ => ?_)
  cases (id t).getApplication applicationId with
  | none => exact Tx.relies_fail trivial
  | some app =>
    refine Tx.relies_check fun _ => ?_
    refine Tx.relies_check fun _ => ?_
    refine Tx.relies_select fun _ _ => Tx.relies_check fun _ => ?_
    refine Tx.relies_update fun _ _ _ => insertMembership_kept (fun u => ?_) _ _
    exact ⟨rfl, rfl, rfl, rfl, rfl, rfl⟩

private theorem exitAs_served (agencyUserId hostUserId : UserId) (reason : AgencyHostHistoryReason)
    (s : AgencyDb) : Served request (exitAs agencyUserId hostUserId reason) s := by
  refine forget_served (transaction_served ?_)
  exact finalizeAgencyHostExit_kept (fun _ => ⟨rfl, rfl, rfl, rfl, rfl, rfl⟩) _ _ _

private theorem applyToLeave_served (hostUserId : UserId) (gates faceVerified : Bool)
    (s : AgencyDb) :
    Served request (applyToLeave applicationId hostUserId gates faceVerified) s := by
  refine Prog.relies_select fun t1 _ => ?_
  cases t1.getHost hostUserId with
  | none => exact Prog.relies_fail trivial
  | some membership =>
    refine Prog.relies_check fun _ => Prog.relies_select fun t2 _ => ?_
    refine Prog.relies_check fun _ => Prog.relies_select fun t3 _ => ?_
    unfold leaveAs
    split
    · exact exitAs_served membership.agencyUserId membership.hostUserId _ t3
    · exact autocommit_served fun _ => ⟨rfl, rfl, rfl, rfl, rfl, rfl⟩

private theorem leave_served {applicationId : Nat} {body : Option LeaveApplication → AgencyTx Unit}
    (kept : ∀ leave t, Kept request (body leave) ∅ id t) (s : AgencyDb) :
    Served request (Prog.transaction (Tx.select (·.getLeave applicationId) >>= body)) s :=
  transaction_served (Tx.relies_select fun t _ => kept _ t)

private theorem settleLeave_kept (leave : LeaveApplication) (status : LeaveStatus)
    (reason : AgencyHostHistoryReason) (s : AgencyDb) :
    Kept request (settleLeave leave status reason) ∅ id s := by
  refine Tx.relies_update fun t _ _ => Tx.Relies.bind ?_
  have alike : ∀ u, Alike u (((·.setLeaveStatus leave.id status none) ∘ id) u) :=
    fun _ => ⟨rfl, rfl, rfl, rfl, rfl, rfl⟩
  exact finalizeAgencyHostExit_kept alike _ _ _

private theorem acceptLeaveApplication_served (applicationId : Nat) (s : AgencyDb) :
    Served request (acceptLeaveApplication agentUserId applicationId) s := by
  refine leave_served (fun leave t => ?_) s
  cases leave with
  | none => exact Tx.relies_fail trivial
  | some leave =>
    refine Tx.relies_check fun _ => ?_
    refine Tx.relies_check fun _ => ?_
    exact settleLeave_kept leave _ _ t

private theorem rejectLeaveApplication_served (applicationId : Nat) (s : AgencyDb) :
    Served request (rejectLeaveApplication agentUserId applicationId) s := by
  refine Prog.relies_select fun t1 _ => leave_served (fun leave t2 => ?_) t1
  cases leave with
  | none => exact Tx.relies_fail trivial
  | some leave =>
    refine Tx.relies_check fun _ => ?_
    refine Tx.relies_check fun _ => ?_
    intro t3 _ _
    exact committing_alike fun _ => ⟨rfl, rfl, rfl, rfl, rfl, rfl⟩

private theorem lateAcceptLeaveApplication_served (applicationId : Nat) (s : AgencyDb) :
    Served request (lateAcceptLeaveApplication agentUserId applicationId) s := by
  refine leave_served (fun leave t1 => ?_) s
  cases leave with
  | none => exact Tx.relies_fail trivial
  | some leave =>
    refine Tx.relies_check fun _ => ?_
    refine Tx.relies_check fun _ => ?_
    refine Tx.relies_select fun t2 _ => Tx.relies_check fun _ => ?_
    exact settleLeave_kept leave _ _ t2

private theorem processAutoApproveJob_served (s : AgencyDb) :
    Served request (processAutoApproveJob applicationId) s := by
  refine leave_served (fun leave t => ?_) s
  have nothing : Kept request (pure () : AgencyTx Unit) ∅ id t :=
    Tx.relies_pure (committing_alike fun _ => ⟨rfl, rfl, rfl, rfl, rfl, rfl⟩)
  cases leave with
  | none => exact nothing
  | some leave =>
    unfold autoApprove
    dsimp only
    split
    · exact nothing
    · exact settleLeave_kept leave _ _ t

private theorem removeHost_served (agentUserId hostUserId : UserId)
    (reason : Option AgencyHostHistoryReason) (s : AgencyDb) :
    Served request (removeHost agentUserId hostUserId reason) s := by
  refine Prog.relies_select fun t _ => ?_
  cases t.getHost hostUserId with
  | none => exact Prog.relies_fail trivial
  | some membership =>
    unfold removeMember
    dsimp only
    split
    · exact Prog.relies_fail trivial
    · cases reason with
      | none => exact Prog.relies_fail trivial
      | some reason => exact exitAs_served agentUserId membership.hostUserId reason t

private theorem adminRemoveHostFromAgency_served (hostUserId : UserId) (s : AgencyDb) :
    Served request (adminRemoveHostFromAgency hostUserId) s := by
  refine Prog.relies_select fun t _ => ?_
  cases t.getHost hostUserId with
  | none => exact Prog.relies_fail trivial
  | some membership => exact exitAs_served _ _ _ t

private theorem alike_pause (db : AgencyDb) (agencyUserId : UserId) :
    Alike db { db with agencies := db.agencies.map fun agency =>
      if agency.userId = agencyUserId then { agency with paused := true } else agency } := by
  refine ⟨rfl, rfl, rfl, rfl, rfl, ?_⟩
  dsimp only
  rw [List.map_map]
  refine List.map_congr_left fun agency _ => ?_
  simp only [Function.comp]
  split <;> rfl

private theorem forceExitFromCS_served (hostUserId : UserId) (pauseAgency : Bool) (s : AgencyDb) :
    Served request (forceExitFromCS hostUserId pauseAgency) s := by
  refine Prog.relies_select fun t _ => ?_
  cases t.getHost hostUserId with
  | none => exact Prog.relies_fail trivial
  | some membership =>
    refine transaction_served (Tx.Relies.bind ?_)
    cases pauseAgency with
    | true =>
      refine fun t1 _ _ => Tx.Relies.bind ?_
      exact finalizeAgencyHostExit_kept (fun u => alike_pause u _) _ _ _
    | false =>
      refine Tx.relies_pure (Tx.Relies.bind ?_)
      exact finalizeAgencyHostExit_kept (fun _ => ⟨rfl, rfl, rfl, rfl, rfl, rfl⟩) _ _ _

private theorem agencyDeletion_kept (reason : AgencyHostHistoryReason) (s : AgencyDb) :
    Kept request (handleAgentAccountDeletion agentUserId reason []) ∅ id s := by
  have once : (([] : List HistoryRow).map (·.membership.hostUserId)).Nodup := List.nodup_nil
  exact handleAgentAccountDeletion_kept agentUserId reason once (by simp)

private theorem deleteAccountPermanently_kept (userId : UserId) (s : AgencyDb) :
    Kept request (deleteAccountPermanently userId) ∅ id s := by
  refine Tx.Relies.bind (Tx.relies_select fun t _ => ?_)
  cases (id t).getHost userId with
  | none => exact Tx.relies_pure (agencyDeletion_kept userId _ t)
  | some membership =>
    refine exitAll_relies [] fun rows held' u sub _ locked => ?_
    exact handleAgentAccountDeletion_kept userId _ ((List.nodup_singleton _).sublist sub) locked

private theorem handler_served (env : Environment) (request : Request) (s : AgencyDb) :
    Served request (handler env request) s := by
  cases request with
  | applyToAgency => exact applyToAgency_served env _ _ _ _ s
  | adminAddHost => exact adminAddHost_served _ _ _ _ s
  | acceptApplication => exact acceptApplication_served _ _ s
  | applyToLeave => exact applyToLeave_served _ _ _ _ s
  | cancelLeaveApplication => exact autocommit_served fun _ => ⟨rfl, rfl, rfl, rfl, rfl, rfl⟩
  | acceptLeaveApplication => exact acceptLeaveApplication_served _ _ s
  | rejectLeaveApplication => exact rejectLeaveApplication_served _ _ s
  | lateAcceptLeaveApplication => exact lateAcceptLeaveApplication_served _ _ s
  | processAutoApproveJob => exact processAutoApproveJob_served _ s
  | removeHost => exact removeHost_served _ _ _ s
  | adminRemoveHostFromAgency => exact adminRemoveHostFromAgency_served _ s
  | forceExitFromCS => exact forceExitFromCS_served _ _ s
  | deleteAgency =>
    exact transaction_served (agencyDeletion_kept _ _ s)
  | deleteAccount => exact transaction_served (deleteAccountPermanently_kept _ s)
  | tick => exact autocommit_served fun _ => ⟨rfl, rfl, rfl, rfl, rfl, rfl⟩

end Transactions

theorem membership_consistent (env : Environment) {db : AgencyDb} (lawful : Lawful db)
    {c : Config Request AgencyDb Lock AgencyError}
    (run : Reaches (handler env) membershipJournal.Orderly (Config.idle db) c) :
    Consistent c.db := by
  have observed := run.observed (fun request s _ => handler_served env request s)
    (fun _ _ orderly => orderly) (lawful : membershipAgreement.inv db)
  exact Lawful.consistent observed.inv

/-! ### Runs of a few calls -/

/-- `DEFAULT_REJOIN_COOLDOWN_HOURS`. -/
def dayEnvironment : Environment := ⟨dayMs⟩

def twoAgencies : AgencyDb := { now := 0, agencies := [⟨10, 0, false⟩, ⟨20, 0, false⟩] }

private theorem lawful_twoAgencies : Lawful twoAgencies :=
  ⟨List.nodup_nil, by simp [twoAgencies], fun _ => rfl, by decide, rfl⟩

/-- A host joins an agency and is removed, another one joins it, and the agency is deleted. -/
theorem membership_consistent_deleted :
    ∃ c : Config Request AgencyDb Lock AgencyError,
      c.db.events = [.exited ⟨1, 10, 0⟩, .agencyDeleted 10 [⟨2, 10, 0⟩]] ∧ Consistent c.db := by
  obtain ⟨c, run, events⟩ : ∃ c, Reaches (handler dayEnvironment) membershipJournal.Orderly
      (Config.idle twoAgencies) c ∧
      c.db.events = [.exited ⟨1, 10, 0⟩, .agencyDeleted 10 [⟨2, 10, 0⟩]] :=
    exists_reaches_checked membershipJournal.orderly_of_checks [
      serve (.applyToAgency 0 1 10 true) 0 13,
      serve (.adminRemoveHostFromAgency 1) 1 11, serve (.adminAddHost 1 10 2 true) 2 11,
      serve (.deleteAgency 10 .agencyBanned) 3 11] (by decide +kernel)
  exact ⟨c, events, membership_consistent _ lawful_twoAgencies run⟩

/-- A host joins after the hosts of the agency are listed for its deletion: the row goes with the
agency, leaves no history, and `currentAgencyId` stays. And of two exits that have read the same
row, the second deletes the row of the agency the host has joined after the first. -/
theorem membership_not_consistent :
    (∃ c, Reaches (handler dayEnvironment) (fun _ _ => True) (Config.idle twoAgencies) c ∧
      c.db.hosts = [] ∧ c.db.history = [] ∧ c.db.currentAgencyId 1 = some 10 ∧
      ¬Consistent c.db) ∧
    ∃ c, Reaches (handler dayEnvironment) (fun _ _ => True) (Config.idle twoAgencies) c ∧
      c.db.agencies = [⟨10, -1, false⟩, ⟨20, 1, false⟩] ∧ c.db.hosts = [] ∧ ¬Consistent c.db := by
  constructor
  · obtain ⟨c, run, hosts, history, current⟩ : ∃ c, Reaches (handler dayEnvironment)
        (fun _ _ => True) (Config.idle twoAgencies) c ∧ c.db.hosts = [] ∧ c.db.history = [] ∧
        c.db.currentAgencyId 1 = some 10 :=
      exists_reaches [serve (.deleteAgency 10 .agencyBanned) 0 1,
        serve (.applyToAgency 0 1 10 true) 1 13, List.replicate 2 (.advance 0)]
        (by decide +kernel)
    refine ⟨c, run, hosts, history, current, fun consistent => ?_⟩
    obtain ⟨row, member, -⟩ := (consistent.current 1 10).mpr current
    rw [hosts] at member
    cases member
  · obtain ⟨c, run, agencies, hosts⟩ : ∃ c, Reaches (handler dayEnvironment) (fun _ _ => True)
        (Config.idle twoAgencies) c ∧ c.db.agencies = [⟨10, -1, false⟩, ⟨20, 1, false⟩] ∧
        c.db.hosts = [] :=
      exists_reaches [serve (.adminAddHost 0 10 1 true) 0 11,
        serve (.adminRemoveHostFromAgency 1) 1 2,
        serve (.adminRemoveHostFromAgency 1) 2 11,
        serve (.adminAddHost 1 20 1 true) 3 11, List.replicate 9 (.advance 1)]
        (by decide +kernel)
    refine ⟨c, run, agencies, hosts, fun consistent => ?_⟩
    have count := consistent.counts ⟨20, 1, false⟩ (by rw [agencies]; simp)
    rw [AgencyDb.hostsOf, hosts] at count
    exact absurd count (by decide)

end OlNode.AgencyHosts
