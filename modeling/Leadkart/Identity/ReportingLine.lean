import Leadkart.Common.Tenancy
import Leadkart.Identity.Store
import Leadkart.Logic.ParentPointer

/-!
# Reporting lines
-/

namespace Leadkart.ReportingLine

open List UuidCodec Effect Machine ParentPointer

/-! ## The handlers -/

def errUserNotFound : Sentinel := ⟨.unknown, "", "user: not found"⟩

structure AssignUserManagerCommand where
  (tenantID membershipID managerID : String)

structure RemoveUserManagerCommand where
  (tenantID membershipID : String)

def handlerError (handler : String) (e : Err) : Err :=
  if e.is Membership.errNotFound then ⟨errUserNotFound, ""⟩
  else ⟨e.sentinel, handler ++ ": " ++ e.detail⟩

def managerOf (tenantID : String) (s : Store) (id : String) : Option String :=
  (s.memberships.find? fun q => q.row.id == id && q.row.tenantID == tenantID).bind
    fun st => st.row.reportsTo

def managerKnown (tenantID id : String) (s : Store) : Except SqlError Unit :=
  Sql.foreignKey "fk_memberships_reports_to_same_tenant"
    ((managerOf tenantID s id).all fun manager =>
      s.memberships.rows.any fun q => q.row.id == manager && q.row.tenantID == tenantID)

section

variable (codec : UuidCodec)

def storedManager (raw : String) : Except Err String :=
  if raw = "" then .ok ""
  else (codec.parseOr "membership repo: parse reports_to " raw).map fun u =>
    codec.uuidStringIfValid (pgUUIDOrNull u)

def managerFn (op : Membership → Membership.Result) : Membership.UpdateFn := fun m =>
  match op m with
  | (m', some e) => (m', .error e)
  | (m', none) =>
    match storedManager codec m'.reportsTo with
    | .error e => (m', .error e)
    | .ok manager => ({ m' with reportsTo := manager }, .ok true)

def updateManager (tenantID membershipID : String) (op : Membership → Membership.Result) :
    Repo Unit :=
  atomic do
    let id ← ofExcept (codec.parseOr "membership repo: parse id " membershipID)
    MembershipRepository.updateByID tenantID (codec.string id) (managerFn codec op)
    query fun s => (managerKnown tenantID (codec.string id) s).mapError
      (Pg.wrapped "membership repo: update profile: ")

def assignUserManager (now : Time) (cmd : AssignUserManagerCommand) : Repo Unit :=
  if cmd.tenantID = "" then fail (.foreign "assign_user_manager: tenant id required")
  else if cmd.membershipID = "" then fail (.foreign "assign_user_manager: membership id required")
  else if cmd.managerID = "" then fail (.foreign "assign_user_manager: manager id required")
  else mapError (updateManager codec cmd.tenantID cmd.membershipID fun m =>
    m.assignManager cmd.managerID now) (handlerError "assign_user_manager")

def removeUserManager (now : Time) (cmd : RemoveUserManagerCommand) : Repo Unit :=
  if cmd.tenantID = "" then fail (.foreign "remove_user_manager: tenant id required")
  else if cmd.membershipID = "" then fail (.foreign "remove_user_manager: membership id required")
  else mapError (updateManager codec cmd.tenantID cmd.membershipID fun m => m.removeManager now)
    (handlerError "remove_user_manager")

inductive Command where
  | assign (now : Time) (cmd : AssignUserManagerCommand)
  | remove (now : Time) (cmd : RemoveUserManagerCommand)

def Command.tenantID : Command → String
  | assign _ cmd => cmd.tenantID
  | remove _ cmd => cmd.tenantID

def Command.handle : Command → Repo Unit
  | assign now cmd => assignUserManager codec now cmd
  | remove now cmd => removeUserManager codec now cmd

def step (s : Store) (c : Command) : Option Store := some ((c.handle codec).run s).2

def Command.Clear (s : Store) : Command → Prop
  | assign _ cmd => ∀ id manager, codec.parse cmd.membershipID = some id →
      codec.parse cmd.managerID = some manager →
        ¬ Reaches (managerOf cmd.tenantID s) (codec.string manager) (codec.string id)
  | remove _ _ => True

def seed (tenantID id : String) (s : Store) : List String :=
  (s.memberships.rows.filter fun q =>
    q.row.tenantID == tenantID && q.row.id == id && q.row.status == .active).map fun q => q.row.id

def reports (tenantID : String) (s : Store) (manager : String) : List String :=
  (s.memberships.rows.filter fun q =>
    q.row.tenantID == tenantID && q.row.reportsTo == some manager && q.row.status == .active).map
      fun q => q.row.id

def listSubordinateMembershipIDs (fuel : Nat) (tenantID membershipID : String) (s : Store) :
    Option (Except Err (List String)) :=
  match codec.parseOr "tasks hierarchy: parse tenant id " tenantID,
      codec.parseOr "tasks hierarchy: parse membership id " membershipID with
  | .error e, _ => some (.error e)
  | .ok _, .error e => some (.error e)
  | .ok tid, .ok mid =>
    (descend (reports (codec.string tid) s) fuel (seed (codec.string tid) (codec.string mid) s)).map
      .ok

end

section Lines

variable {codec : UuidCodec} {tenantID : String} {s s' : Store} {a b : String}

theorem managerOf_eq_some : managerOf tenantID s a = some b ↔ ∃ st ∈ s.memberships, st.row.id = a ∧
    st.row.tenantID = tenantID ∧ st.row.reportsTo = some b := by
  unfold managerOf
  rw [Option.bind_eq_some_iff]
  constructor
  · rintro ⟨st, hf, hb⟩
    obtain ⟨hst, hk⟩ := Table.mem_of_find? hf
    rw [Bool.and_eq_true, beq_iff_eq, beq_iff_eq] at hk
    exact ⟨st, hst, hk.1, hk.2, hb⟩
  · rintro ⟨st, hst, rfl, rfl, hb⟩
    exact ⟨st, find_membership hst, hb⟩

variable {m : Membership}

theorem managerFn_eq_ok {op : Membership → Membership.Result} {m' : Membership}
    (h : managerFn codec op m = (m', .ok true)) :
    (op m).2 = none ∧ storedManager codec (op m).1.reportsTo = .ok m'.reportsTo := by
  unfold managerFn at h
  rcases hop : op m with ⟨m₁, _ | e⟩
  · rw [hop] at h
    rcases hs : storedManager codec m₁.reportsTo with e | manager
    · simp only [hs] at h
      exact nomatch (Prod.mk.inj h).2
    · simp only [hs] at h
      cases h
      exact ⟨rfl, rfl⟩
  · rw [hop] at h
    exact nomatch (Prod.mk.inj h).2

theorem managerFn_persists (op : Membership → Membership.Result) (m : Membership) :
    (managerFn codec op m).2 ≠ .ok false := by
  unfold managerFn
  split
  · simp
  · split <;> simp

variable {managerID : String} {now : Time}

theorem assignManager_reportsTo (h : (m.assignManager managerID now).2 = none) :
    (m.assignManager managerID now).1.reportsTo = managerID := by
  unfold Membership.assignManager at h ⊢
  split_ifs at h ⊢ with hse hs hc
  · cases h
  · exact hs
  · rfl
  · rfl

theorem storedManager_eq_ok {raw manager : String} (h : storedManager codec raw = .ok manager)
    (hb : zeroToNil manager = some b) :
    raw ≠ "" ∧ ∃ u, codec.parse raw = some u ∧ b = codec.string u := by
  have hm : manager = b := by
    unfold zeroToNil at hb
    split at hb
    · cases hb
    · exact Option.some.inj hb
  subst hm
  unfold storedManager at h
  split at h
  · cases h
    cases hb
  · rename_i hr
    rcases hp : codec.parseOr "membership repo: parse reports_to " raw with e | u
    · rw [hp] at h
      cases h
    · rw [hp] at h
      have hs : codec.uuidStringIfValid (pgUUIDOrNull u) = manager := Except.ok.inj h
      refine ⟨hr, u, parse_of_parseOr hp, ?_⟩
      rw [← hs]
      by_cases hu : u = 0
      · -- the zero id is stored as NULL
        rw [← hs, hu] at hb
        cases hb
      · rw [pgUUIDOrNull, if_neg hu]
        rfl

theorem managerOf_updateByID {id : String} {fn : Membership.UpdateFn}
    (hfn : ∀ m, (fn m).2 ≠ .ok false)
    (h : (MembershipRepository.updateByID tenantID id fn).run s = (.ok (), s')) :
    ∃ m m', fn m = (m', .ok true) ∧
    (∀ a b, a ≠ id → managerOf tenantID s' a = some b → managerOf tenantID s a = some b) ∧
    ∀ b, managerOf tenantID s' id = some b → zeroToNil m'.reportsTo = some b := by
  rcases MembershipRepository.updateByID_ok h with
    ⟨-, m, hf⟩ | ⟨st, st', t, hfi, hal, ht, rfl⟩
  · exact absurd hf (hfn m)
  obtain ⟨hst, hk⟩ := Table.mem_of_find? hfi
  rw [Bool.and_eq_true, beq_iff_eq, beq_iff_eq] at hk
  obtain ⟨m', hat, hp⟩ := Option.bind_eq_some_iff.mp hal
  obtain ⟨m, -, hc⟩ := Option.bind_eq_some_iff.mp hat
  have hw : fn m = (m', .ok true) := by
    split at hc
    · rename_i hok
      rw [hok, Option.some.inj hc]
    · cases hc
  obtain ⟨hrow, -, -⟩ := Membership.persist_eq hp
  have hid : st'.row.id = id := by
    rw [hrow]
    exact hk.1
  refine ⟨m, m', hw, ?_, ?_⟩
  · intro a b ha hb
    obtain ⟨st₁, hst₁, rfl, hte, hb⟩ := managerOf_eq_some.mp hb
    obtain ⟨st₀, hst₀, rfl⟩ := (Table.mem_update ht).mp hst₁
    split at ha
    · exact absurd hid ha
    · rename_i ho
      rw [if_neg ho] at hte hb ⊢
      exact managerOf_eq_some.mpr ⟨st₀, hst₀, rfl, hte, hb⟩
  · intro b hb
    obtain ⟨st₁, hst₁, hst₁id, -, hb⟩ := managerOf_eq_some.mp hb
    obtain ⟨st₀, hst₀, rfl⟩ := (Table.mem_update ht).mp hst₁
    split at hst₁id
    · rename_i hs
      rw [if_pos hs, hrow] at hb
      exact hb
    · rename_i ho
      exact absurd hst₁id (by simpa using ho)

theorem managerOf_assign {me : String}
    (h : (updateManager codec tenantID me fun m => m.assignManager managerID now).run s =
    (.ok (), s')) : ∃ id, codec.parse me = some id ∧
    (∀ a b, a ≠ codec.string id → managerOf tenantID s' a = some b →
    managerOf tenantID s a = some b) ∧ ∀ b, managerOf tenantID s' (codec.string id) = some b →
    managerID ≠ "" ∧ ∃ u, codec.parse managerID = some u ∧ b = codec.string u := by
  obtain ⟨id, s₁, hr, hre⟩ := bind_eq_ok.mp (atomic_eq_ok.mp h)
  obtain ⟨hp, rfl⟩ := ofExcept_eq_ok.mp hr
  obtain ⟨_, s₂, hu, hq⟩ := bind_eq_ok.mp hre
  obtain ⟨-, rfl⟩ := query_eq_ok.mp hq
  obtain ⟨m, m', hfn, ho, hse⟩ := managerOf_updateByID (managerFn_persists _) hu
  obtain ⟨hd, hs⟩ := managerFn_eq_ok hfn
  rw [assignManager_reportsTo hd] at hs
  exact ⟨id, parse_of_parseOr hp, ho, fun b hb => storedManager_eq_ok hs (hse b hb)⟩

variable {c : Command}

theorem handle_eq_error {e : Err} (h : (c.handle codec).run s = (.error e, s')) : s' = s := by
  have hu : ∀ {tenantID membershipID handler e} {op : Membership → Membership.Result},
      (mapError (updateManager codec tenantID membershipID op) (handlerError handler)).run s =
        (.error e, s') → s' = s := by
    intro tenantID membershipID handler e op hr
    obtain ⟨e₀, hr, -⟩ := mapError_eq_error hr
    exact atomic_eq_error hr
  cases c with
  | assign now cmd =>
    simp only [Command.handle, assignUserManager] at h
    split_ifs at h
    · exact (Prod.mk.inj h).2.symm
    · exact (Prod.mk.inj h).2.symm
    · exact (Prod.mk.inj h).2.symm
    · exact hu h
  | remove now cmd =>
    simp only [Command.handle, removeUserManager] at h
    split_ifs at h
    · exact (Prod.mk.inj h).2.symm
    · exact (Prod.mk.inj h).2.symm
    · exact hu h

theorem assign_acyclic {cmd : AssignUserManagerCommand}
    (hc : (Command.assign now cmd).Clear codec s) (hac : Acyclic (managerOf cmd.tenantID s))
    (h : (assignUserManager codec now cmd).run s = (.ok (), s')) :
    Acyclic (managerOf cmd.tenantID s') := by
  unfold assignUserManager at h
  split_ifs at h with ht hme hm
  · exact nomatch (Prod.mk.inj h).1
  · exact nomatch (Prod.mk.inj h).1
  · exact nomatch (Prod.mk.inj h).1
  obtain ⟨id, hid, ho, hs⟩ := managerOf_assign (mapError_eq_ok.mp h)
  rcases hp : codec.parse cmd.managerID with _ | u
  · refine hac.mono fun a b hb => ?_
    by_cases ha : a = codec.string id
    · obtain ⟨-, u, hu, -⟩ := hs b (ha ▸ hb)
      cases hp.symm.trans hu
    · exact ho a b ha hb
  · refine hac.changed ho (fun b hb => ?_) (hc id u hid hp)
    obtain ⟨-, v, hv, rfl⟩ := hs b hb
    rw [Option.some.inj (hp.symm.trans hv)]

theorem remove_acyclic {cmd : RemoveUserManagerCommand} (hac : Acyclic (managerOf cmd.tenantID s))
    (h : (removeUserManager codec now cmd).run s = (.ok (), s')) :
    Acyclic (managerOf cmd.tenantID s') := by
  unfold removeUserManager at h
  split_ifs at h with ht hm
  · exact nomatch (Prod.mk.inj h).1
  · exact nomatch (Prod.mk.inj h).1
  obtain ⟨id, -, ho, hs⟩ := managerOf_assign (mapError_eq_ok.mp h)
  refine hac.mono fun a b hb => ?_
  by_cases ha : a = codec.string id
  · exact absurd rfl (hs b (ha ▸ hb)).1
  · exact ho a b ha hb

theorem step_acyclic (hc : c.Clear codec s) (ha : Acyclic (managerOf c.tenantID s))
    (h : step codec s c = some s') : Acyclic (managerOf c.tenantID s') := by
  cases h
  rcases hr : (c.handle codec).run s with ⟨e | _, s'⟩
  · rw [handle_eq_error hr]
    exact ha
  · cases c with
    | assign now cmd => exact assign_acyclic hc ha hr
    | remove now cmd => exact remove_acyclic ha hr

end Lines

section

variable {codec : UuidCodec} {tenantID : String} {s s' : Store}

theorem reports_up {a b : String} (h : b ∈ reports tenantID s a) :
    managerOf tenantID s b = some a := by
  obtain ⟨q, hq, rfl⟩ := mem_map.mp h
  obtain ⟨hq, hk⟩ := mem_filter.mp hq
  rw [Bool.and_eq_true, Bool.and_eq_true, beq_iff_eq, beq_iff_eq] at hk
  exact managerOf_eq_some.mpr ⟨q, hq, rfl, hk.1.1, hk.1.2⟩

theorem listSubordinateMembershipIDs_terminates (hc : codec.Lawful) {T : UUID}
    (hT : tenantID = codec.string T) (ha : Acyclic (managerOf tenantID s)) (me : String) :
    ∃ answer, ∀ fuel, s.memberships.rows.length < fuel →
    listSubordinateMembershipIDs codec fuel tenantID me s = some answer := by
  subst hT
  unfold listSubordinateMembershipIDs
  rw [parseOr_ok (hc.parse_string T)]
  rcases codec.parseOr "tasks hierarchy: parse membership id " me with e | mid
  · exact ⟨.error e, fun _ _ => rfl⟩
  have hi : ∀ p : Membership.StoredMembership → Bool,
      ((s.memberships.rows.filter p).map fun q => q.row.id) ⊆
        s.memberships.rows.map fun q => q.row.id :=
    fun p => List.map_subset _ fun _ hq => (List.mem_filter.mp hq).1
  obtain ⟨below, hbe⟩ := ha.descend_eq_some (fun a b hb => reports_up hb)
    (fun a => hi _) (hi fun q => q.row.tenantID == codec.string T &&
      q.row.id == codec.string mid && q.row.status == .active)
  refine ⟨.ok below, fun fuel hf => ?_⟩
  have he := hbe fuel (by rwa [List.length_map])
  show (descend (reports (codec.string T) s) fuel (seed (codec.string T) (codec.string mid) s)).map
    Except.ok = _
  unfold seed
  rw [he]
  rfl

theorem reporting_lines_acyclic (hcodec : codec.Lawful) (T : UUID) {cmds : List Command}
    (htenant : ∀ c ∈ cmds, c.tenantID = codec.string T)
    (hnone : ∀ st ∈ s.memberships, st.row.tenantID = codec.string T → st.row.reportsTo = none)
    (hclear : Along (step codec) (fun s c => c.Clear codec s) s cmds)
    (hr : run (step codec) s cmds = some s') : Acyclic (managerOf (codec.string T) s') ∧
    ∀ membershipID, ∃ answer, ∀ fuel, s'.memberships.rows.length < fuel →
    listSubordinateMembershipIDs codec fuel (codec.string T) membershipID s' = some answer := by
  have hsa : Acyclic (managerOf (codec.string T) s) := by
    refine acyclic_of_none fun a => Option.eq_none_iff_forall_ne_some.mpr fun b hb => ?_
    obtain ⟨st, hst, -, htenant, hb⟩ := managerOf_eq_some.mp hb
    exact nomatch (hnone st hst htenant).symm.trans hb
  have ha : Acyclic (managerOf (codec.string T) s') := by
    refine run_invariant (P := fun s => Acyclic (managerOf (codec.string T) s)) hsa ?_
      (hclear.and_labels htenant) hr
    rintro s c s' ha ⟨hc, hcT⟩ hs
    rw [← hcT] at ha ⊢
    exact step_acyclic hc ha hs
  exact ⟨ha, fun membershipID =>
    listSubordinateMembershipIDs_terminates hcodec rfl ha membershipID⟩

end

def sampleMembership (id : UUID) (personID : String) : Membership.StoredMembership where
  row := { id := unaryCodec.string id, personID, tenantID := unaryCodec.string 2
           status := .active, joinedAt := 1 }
  roleIDs := []
  overrides := []
  roleIDs_pk := List.nodup_nil
  overrides_pk := List.nodup_nil

def sampleStore : Store where
  persons := .empty
  tenants := .empty
  roles := .empty
  families := .empty
  memberships :=
    { rows := [sampleMembership 5 "ravi", sampleMembership 6 "mira"]
      unique := by
        simp [Membership.StoredMembership.Clash, Membership.StoredMembership.BothActive,
          sampleMembership, unaryCodec_lawful.string_inj] }

def sampleAssign (id manager : UUID) : Command :=
  .assign 20 ⟨unaryCodec.string 2, unaryCodec.string id, unaryCodec.string manager⟩

theorem sampleStore_without_lines : ∀ st ∈ sampleStore.memberships, st.row.reportsTo = none := by
  intro st hst
  rcases mem_cons.mp hst with rfl | hst
  · rfl
  · obtain rfl := mem_singleton.mp hst
    rfl

theorem manager_assigned : ∃ s', run (step unaryCodec) sampleStore [sampleAssign 5 6] = some s' ∧
    managerOf (unaryCodec.string 2) s' (unaryCodec.string 5) = some (unaryCodec.string 6) ∧
    Acyclic (managerOf (unaryCodec.string 2) s') := by
  have hcl : (sampleAssign 5 6).Clear unaryCodec sampleStore := by
    intro id manager hid hm hre
    obtain rfl := Option.some.inj ((unaryCodec_lawful.parse_string 5).symm.trans hid)
    obtain rfl := Option.some.inj ((unaryCodec_lawful.parse_string 6).symm.trans hm)
    rcases reaches_iff.mp hre with hs | ⟨b, hb, -⟩
    · exact absurd (unaryCodec_lawful.string_inj.mp hs) (by decide)
    · obtain ⟨st, hst, -, -, hb⟩ := managerOf_eq_some.mp hb
      exact nomatch (sampleStore_without_lines st hst).symm.trans hb
  have ht : ∀ c ∈ [sampleAssign 5 6], c.tenantID = unaryCodec.string 2 := by
    intro c hc
    obtain rfl := mem_singleton.mp hc
    rfl
  refine exists_some (P := fun s' => managerOf (unaryCodec.string 2) s' (unaryCodec.string 5) =
    some (unaryCodec.string 6)) (by decide +kernel) fun s' hr hl => ⟨hl, ?_⟩
  exact (reporting_lines_acyclic unaryCodec_lawful 2 ht
    (fun st hst _ => sampleStore_without_lines st hst) ⟨hcl, trivial⟩ hr).1

theorem managers_in_a_circle :
    ∃ s', run (step unaryCodec) sampleStore [sampleAssign 5 6, sampleAssign 6 5] = some s' ∧
    Above (managerOf (unaryCodec.string 2) s') (unaryCodec.string 5) (unaryCodec.string 5) ∧
    ∀ fuel, listSubordinateMembershipIDs unaryCodec fuel (unaryCodec.string 2)
    (unaryCodec.string 5) s' = none := by
  refine exists_some (P := fun s' =>
    seed (unaryCodec.string 2) (unaryCodec.string 5) s' = [unaryCodec.string 5] ∧
      reports (unaryCodec.string 2) s' (unaryCodec.string 5) = [unaryCodec.string 6] ∧
      reports (unaryCodec.string 2) s' (unaryCodec.string 6) = [unaryCodec.string 5])
    (by decide +kernel) fun s' _ ⟨hs, hf, hsi⟩ => ⟨?_, fun fuel => ?_⟩
  · have hup₆ := reports_up (hf ▸ mem_singleton_self (unaryCodec.string 6))
    have hup₅ := reports_up (hsi ▸ mem_singleton_self (unaryCodec.string 5))
    exact .tail (.single hup₅) hup₆
  · unfold listSubordinateMembershipIDs
    rw [parseOr_ok (unaryCodec_lawful.parse_string 2),
      parseOr_ok (unaryCodec_lawful.parse_string 5)]
    show (descend (reports (unaryCodec.string 2) s') fuel
      (seed (unaryCodec.string 2) (unaryCodec.string 5) s')).map Except.ok = none
    rw [hs, Option.map_eq_none_iff]
    -- each round works on one of the two, and finds the other
    refine descend_eq_none (P := fun working =>
      working = [unaryCodec.string 5] ∨ working = [unaryCodec.string 6]) ?_ ?_ (.inl rfl) fuel
    · rintro working (rfl | rfl)
      · exact cons_ne_nil _ _
      · exact cons_ne_nil _ _
    · rintro working (rfl | rfl)
      · exact .inr (by rw [flatMap_singleton, hf])
      · exact .inl (by rw [flatMap_singleton, hsi])

end Leadkart.ReportingLine
