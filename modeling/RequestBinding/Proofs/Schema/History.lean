import Mathlib.Data.List.Dedup
import Mathlib.Data.List.Induction
import RequestBinding.Pattern.Dialect
import RequestBinding.Proofs.Schema.FormCap
import RequestBinding.Proofs.Schema.Handles

/-!
# The history of a registry

A program registers records, again and again and with other options, changes caps and binds
requests, in any order. Each registration that succeeds makes a schema of its own, and whoever holds
a schema can change its cap, also after another has taken its place. `Session.run_entries` says what
the registry holds after any such run: under each identity the schema of the last registration that
succeeded, with the cap that was last set on this schema. Registrations that fail and bindings leave
it as it is.
-/

namespace RequestBinding

/-! ## Entries -/

namespace Registry

variable {recs : Records} {options : RegisterOptions} {r : Record} {ident : String}

/-- Putting a record leaves the others as they are. -/
theorem find?_put_of_ne {api : ParamsApi} (other : api.ident ≠ ident) (apis : List ParamsApi) :
    (put api apis).find? (·.ident == ident) = apis.find? (·.ident == ident) := by
  have passed : (api.ident == ident) = false := beq_eq_false_iff_ne.mpr other
  induction apis with
  | nil => rw [put, List.find?_cons, passed]
  | cons first rest ih =>
    by_cases same : first.ident = api.ident
    · rw [put, if_pos (beq_iff_eq.mpr same), List.find?_cons, passed, List.find?_cons, same, passed]
    · rw [put, if_neg (mt beq_iff_eq.mp same), List.find?_cons, List.find?_cons, ih]

theorem find?_insert (registry : Registry) (api : ParamsApi) :
    (registry.insert api).find? api.ident = some api :=
  find?_put api registry.apis

theorem find?_insert_of_ne (registry : Registry) {api : ParamsApi} (other : api.ident ≠ ident) :
    (registry.insert api).find? ident = registry.find? ident :=
  find?_put_of_ne other registry.apis

theorem map_ident_put (api : ParamsApi) (apis : List ParamsApi) :
    (put api apis).map (·.ident) =
      if api.ident ∈ apis.map (·.ident) then apis.map (·.ident)
      else apis.map (·.ident) ++ [api.ident] := by
  induction apis with
  | nil => rfl
  | cons first rest ih =>
    by_cases same : first.ident = api.ident
    · rw [put, if_pos (beq_iff_eq.mpr same), List.map_cons, List.map_cons, same,
        if_pos List.mem_cons_self]
    · have own : api.ident ∈ first.ident :: rest.map (·.ident) ↔
          api.ident ∈ rest.map (·.ident) :=
        List.mem_cons.trans (or_iff_right (Ne.symm same))
      rw [put, if_neg (mt beq_iff_eq.mp same), List.map_cons, List.map_cons, ih, ite_congr
        (propext own) (fun _ => rfl) fun _ => rfl]
      split
      · rfl
      · rfl

/-- Changing a cap changes no other record. -/
theorem find?_setMaxMemory_of_ne (registry : Registry) {other : String} (ne : other ≠ ident)
    (octets : Nat) : (registry.setMaxMemory other octets).find? ident = registry.find? ident := by
  unfold find? setMaxMemory
  simp only
  induction registry.apis with
  | nil => rfl
  | cons api rest ih =>
    rw [List.map_cons, List.find?_cons, List.find?_cons, ih]
    by_cases own : api.ident = other
    · rw [if_pos (beq_iff_eq.mpr own)]
      simp only [beq_eq_false_iff_ne.mpr (own ▸ ne)]
    · rw [if_neg (mt beq_iff_eq.mp own)]

theorem map_ident_setMaxMemory (registry : Registry) (ident : String) (octets : Nat) :
    (registry.setMaxMemory ident octets).apis.map (·.ident) = registry.apis.map (·.ident) := by
  rw [setMaxMemory, List.map_map]
  apply List.map_congr_left
  intro api _
  rw [Function.comp_apply]
  split
  · rfl
  · rfl

/-- A schema that can be built is registered, whatever is registered already. -/
theorem register_of_build_ok [Pattern.Engine] (registry : Registry) (template : Option Value)
    {built : Schema.Built} (made : Schema.build recs options.mapper r = .ok built) :
    let api := assemble recs registry.settings options template r built
    ∃ events, registry.register recs options template r =
      (.ok api, registry.insert api, events) := by
  unfold register
  rw [made]
  exact ⟨_, rfl⟩

/-- A schema that cannot be built leaves the registry as it is. -/
theorem register_of_build_error [Pattern.Engine] (registry : Registry) (template : Option Value)
    {e : RegistrationError} (failed : Schema.build recs options.mapper r = .error e) :
    ∃ events, registry.register recs options template r = (.error e, registry, events) := by
  unfold register
  rw [failed]
  exact ⟨_, rfl⟩

end Registry

/-! ## Sessions -/

/-- What a program does with a registry and a request. A template gives a registration its examples,
and a schema is named by its number among those that have been made. -/
inductive Action where
  | register (options : RegisterOptions) (template : Option Value) (r : Record)
  | setMaxMemory (schema octets : Nat)
  | bindNew (r : Record) (pathParams : PathParams)
  | bindAt (r : Record) (pathParams : PathParams) (whole : Value)
  /-- Another request comes in. -/
  | request (x : Exchange)

namespace Action

/-- The identity that the action registers, if it is a registration that succeeds. -/
def registered? [Pattern.Engine] (recs : Records) : Action → Option String
  | register options _ r =>
    match Schema.build recs options.mapper r with
    | .ok _ => some r.ident
    | .error _ => none
  | _ => none

theorem registered?_of_build_ok [Pattern.Engine] {recs : Records} {options : RegisterOptions}
    {r : Record} {built : Schema.Built} (template : Option Value)
    (outcome : Schema.build recs options.mapper r = .ok built) :
    registered? recs (register options template r) = some r.ident := by
  simp only [registered?, outcome]

/-- The cap that the action sets on a schema. -/
def cap? (schema : Nat) : Action → Option Nat
  | setMaxMemory other octets => if other = schema then some octets else none
  | _ => none

end Action

/-- A registry, a request, and the identities of the schemas that have been made. -/
structure Session where
  registry : Registry
  exchange : Exchange
  made : List String := []

namespace Session

/-- The schema of a number is the one that is registered under an identity: none has been made for
the identity since. -/
def Current (made : List String) (schema : Nat) (ident : String) : Prop :=
  made[schema]? = some ident ∧ ident ∉ made.drop (schema + 1)

instance (made : List String) (schema : Nat) (ident : String) :
    Decidable (Current made schema ident) :=
  inferInstanceAs (Decidable (_ ∧ _))

theorem Current.unique {made : List String} {ident : String} {schema other : Nat}
    (one : Current made schema ident) (two : Current made other ident) : schema = other := by
  have later : ∀ m n, made[n]? = some ident → m < n → ident ∈ made.drop (m + 1) := by
    intro m n found less
    have place : (made.drop (m + 1))[n - (m + 1)]? = some ident := by
      rw [List.getElem?_drop, Nat.add_sub_cancel' less]
      exact found
    exact List.mem_of_getElem? place
  rcases Nat.lt_trichotomy schema other with less | same | more
  · exact absurd (later _ _ two.1 less) one.2
  · exact same
  · exact absurd (later _ _ one.1 more) two.2

/-- The cap that was set last is that of the last action if it sets one. -/
theorem getD_caps_concat (after : List Action) (a : Action) (schema computed : Nat) :
    ((after ++ [a]).filterMap (·.cap? schema)).getLast?.getD computed =
      (a.cap? schema).getD ((after.filterMap (·.cap? schema)).getLast?.getD computed) := by
  rw [List.filterMap_append]
  cases cap : a.cap? schema with
  | none => rw [List.filterMap_cons_none cap, List.filterMap_nil, List.append_nil, Option.getD_none]
  | some octets =>
    rw [List.filterMap_cons_some cap, List.filterMap_nil, List.getLast?_concat]
    rfl

/-- A session with an empty registry. -/
def start (settings : Settings) (x : Exchange) : Session :=
  { registry := { settings }, exchange := x }

/-- No identity is registered twice, and the registered identities are those for which a schema has
been made. -/
structure Tidy (s : Session) : Prop where
  distinct : (s.registry.apis.map (·.ident)).Nodup
  made : ∀ ident, ident ∈ s.registry.apis.map (·.ident) ↔ ident ∈ s.made

section

variable [Pattern.Engine] {recs : Records} {settings : Settings} {actions : List Action}
  {ident : String} {schema : Nat} {api : ParamsApi}

/-- One action. A schema that has been replaced has nothing to do with the registry any more. -/
def perform (recs : Records) (s : Session) : Action → Session
  | .register options template r =>
    match s.registry.register recs options template r with
    | (.ok api, registry, _) => { s with registry, made := s.made ++ [api.ident] }
    | (.error _, registry, _) => { s with registry }
  | .setMaxMemory schema octets =>
    match s.made[schema]? with
    | none => s
    | some ident =>
      if Current s.made schema ident then
        { s with registry := s.registry.setMaxMemory ident octets }
      else s
  | .bindNew r pathParams =>
    { s with exchange := (s.registry.bindNew recs r pathParams s.exchange).2 }
  | .bindAt r pathParams whole =>
    { s with exchange := (s.registry.bindAt recs r pathParams whole s.exchange).2 }
  | .request x => { s with exchange := x }

/-- Actions in a row. -/
def run (recs : Records) (s : Session) (actions : List Action) : Session :=
  actions.foldl (perform recs) s

/-! ## One action -/

/-- What an action does to the registry: a registration that succeeds puts its schema in, a cap is
set on a schema that is registered, and everything else leaves the registry as it is. -/
theorem perform_cases (s : Session) (recs : Records) (a : Action) :
    (∃ options template r built, a = .register options template r ∧
        Schema.build recs options.mapper r = .ok built ∧
        (s.perform recs a).made = s.made ++ [r.ident] ∧
        (s.perform recs a).registry = s.registry.insert
          (Registry.assemble recs s.registry.settings options template r built)) ∨
      (∃ schema octets ident, a = .setMaxMemory schema octets ∧ Current s.made schema ident ∧
        (s.perform recs a).made = s.made ∧
        (s.perform recs a).registry = s.registry.setMaxMemory ident octets) ∨
      (a.registered? recs = none ∧
        (∀ schema ident, Current s.made schema ident → a.cap? schema = none) ∧
        (s.perform recs a).made = s.made ∧ (s.perform recs a).registry = s.registry) := by
  cases a with
  | register options template r =>
    cases outcome : Schema.build recs options.mapper r with
    | error e =>
      obtain ⟨events, failed⟩ := s.registry.register_of_build_error template outcome
      refine Or.inr (Or.inr ⟨?_, fun _ _ _ => rfl, ?_, ?_⟩)
      · simp only [Action.registered?, outcome]
      · simp only [perform, failed]
      · simp only [perform, failed]
    | ok built =>
      obtain ⟨events, registered⟩ := s.registry.register_of_build_ok template outcome
      refine Or.inl ⟨options, template, r, built, rfl, outcome, ?_, ?_⟩
      · simp only [perform, registered]
        rfl
      · simp only [perform, registered]
  | setMaxMemory schema octets =>
    by_cases current : ∃ ident, Current s.made schema ident
    · obtain ⟨ident, current⟩ := current
      refine Or.inr (Or.inl ⟨schema, octets, ident, rfl, current, ?_, ?_⟩)
      · simp only [perform, current.1, if_pos current]
      · simp only [perform, current.1, if_pos current]
    · have kept : s.perform recs (.setMaxMemory schema octets) = s := by
        unfold perform
        simp only
        split
        · rfl
        · rename_i ident _
          exact if_neg fun holds => current ⟨ident, holds⟩
      refine Or.inr (Or.inr ⟨rfl, fun other ident holds => if_neg ?_, ?_, ?_⟩)
      · rintro rfl
        exact current ⟨ident, holds⟩
      · rw [kept]
      · rw [kept]
  | bindNew | bindAt | request => exact Or.inr (Or.inr ⟨rfl, fun _ _ _ => rfl, rfl, rfl⟩)

theorem made_perform (s : Session) (a : Action) :
    (s.perform recs a).made = s.made ++ (a.registered? recs).toList := by
  rcases s.perform_cases recs a with
    ⟨options, template, r, built, rfl, outcome, made, _⟩ | ⟨_, _, _, rfl, _, made, _⟩ |
      ⟨none, _, made, _⟩
  · rw [made, Action.registered?_of_build_ok template outcome]
    rfl
  · rw [made]
    exact (List.append_nil _).symm
  · rw [made, none]
    exact (List.append_nil _).symm

theorem settings_perform (s : Session) (a : Action) :
    (s.perform recs a).registry.settings = s.registry.settings := by
  rcases s.perform_cases recs a with
    ⟨_, _, _, _, rfl, _, _, registry⟩ | ⟨_, _, _, rfl, _, _, registry⟩ | ⟨_, _, _, registry⟩
  · rw [registry]
    rfl
  · rw [registry]
    rfl
  · rw [registry]

theorem Tidy.perform {s : Session} (tidy : s.Tidy) (a : Action) : (s.perform recs a).Tidy := by
  obtain ⟨distinct, same⟩ := tidy
  rcases s.perform_cases recs a with
    ⟨options, template, r, built, rfl, _, made, registry⟩ | ⟨_, _, _, rfl, _, made, registry⟩ |
      ⟨_, _, made, registry⟩
  · have idents := Registry.map_ident_put
      (Registry.assemble recs s.registry.settings options template r built) s.registry.apis
    rw [show (Registry.assemble recs s.registry.settings options template r built).ident =
      r.ident from rfl] at idents
    by_cases old : r.ident ∈ s.registry.apis.map (·.ident)
    · rw [if_pos old] at idents
      refine ⟨by rw [registry, Registry.insert, idents]; exact distinct, fun ident => ?_⟩
      rw [registry, Registry.insert, idents, made, List.mem_append, List.mem_singleton, same]
      refine (or_iff_left_of_imp ?_).symm
      rintro rfl
      exact (same _).mp old
    · rw [if_neg old] at idents
      refine ⟨?_, fun ident => ?_⟩
      · rw [registry, Registry.insert, idents]
        refine List.nodup_append.mpr ⟨distinct, List.nodup_singleton _, ?_⟩
        intro ident member other single
        rw [List.mem_singleton.mp single]
        rintro rfl
        exact old member
      · rw [registry, Registry.insert, idents, made, List.mem_append, List.mem_append, same]
  · constructor
    · rw [registry, Registry.map_ident_setMaxMemory]
      exact distinct
    · intro ident
      rw [registry, Registry.map_ident_setMaxMemory, made]
      exact same ident
  · constructor
    · rw [registry]
      exact distinct
    · intro ident
      rw [registry, made]
      exact same ident

/-! ## The last registration -/

/-- The schema that the last successful registration of an identity made, and its number: it has
the cap that was last set on it, and else the one that it was made with. -/
def LastMade (recs : Records) (settings : Settings) (actions : List Action) (ident : String)
    (schema : Nat) (api : ParamsApi) : Prop :=
  ∃ before options template r built after,
    actions = before ++ .register options template r :: after ∧ r.ident = ident ∧
      Schema.build recs options.mapper r = .ok built ∧
      (∀ a ∈ after, a.registered? recs ≠ some ident) ∧
      schema = (before.filterMap (·.registered? recs)).length ∧
      let made := Registry.assemble recs settings options template r built
      api = { made with
        maxMemory := (after.filterMap (·.cap? schema)).getLast?.getD made.maxMemory }

/-- After the registration of an identity the schema is the one that it made. -/
theorem lastMade_concat_register {options : RegisterOptions} {template : Option Value} {r : Record}
    {built : Schema.Built} (outcome : Schema.build recs options.mapper r = .ok built) :
    LastMade recs settings (actions ++ [.register options template r]) r.ident schema api ↔
      schema = (actions.filterMap (·.registered? recs)).length ∧
        api = Registry.assemble recs settings options template r built := by
  constructor
  · rintro ⟨before, options', template', r', built', after, split, same, outcome', none, rfl, rfl⟩
    rcases List.eq_nil_or_concat after with rfl | ⟨others, last, rfl⟩
    · obtain ⟨rfl, own⟩ := List.append_inj' split rfl
      cases own
      rw [outcome] at outcome'
      cases outcome'
      exact ⟨rfl, rfl⟩
    · rw [List.concat_eq_append, ← List.cons_append, ← List.append_assoc] at split
      obtain ⟨_, own⟩ := List.append_inj' split rfl
      cases own
      exact absurd (Action.registered?_of_build_ok template outcome) (none _ (by simp))
  · rintro ⟨rfl, rfl⟩
    exact ⟨actions, options, template, r, built, [], rfl, rfl, outcome, nofun, rfl, rfl⟩

/-- Any other action leaves the schema, but for its cap if the action sets that. -/
theorem lastMade_concat {a : Action} (other : a.registered? recs ≠ some ident) :
    LastMade recs settings (actions ++ [a]) ident schema api ↔
      ∃ old, LastMade recs settings actions ident schema old ∧
        api = { old with maxMemory := (a.cap? schema).getD old.maxMemory } := by
  constructor
  · rintro ⟨before, options, template, r, built, after, split, rfl, outcome, none, rfl, rfl⟩
    rcases List.eq_nil_or_concat after with rfl | ⟨others, last, rfl⟩
    · obtain ⟨_, own⟩ := List.append_inj' split rfl
      cases own
      exact absurd (Action.registered?_of_build_ok template outcome) other
    · rw [List.concat_eq_append, ← List.cons_append, ← List.append_assoc] at split
      obtain ⟨rfl, own⟩ := List.append_inj' split rfl
      cases own
      rw [List.concat_eq_append] at none ⊢
      refine ⟨_, ⟨before, options, template, r, built, others, rfl, rfl, outcome,
        fun b member => none b (List.mem_append_left _ member), rfl, rfl⟩, ?_⟩
      simp only [getD_caps_concat]
  · rintro ⟨old, ⟨before, options, template, r, built, after, rfl, rfl, outcome, none, rfl, rfl⟩,
      rfl⟩
    refine ⟨before, options, template, r, built, after ++ [a], List.append_assoc .., rfl, outcome,
      ?_, rfl, by simp only [getD_caps_concat]⟩
    intro b member
    rcases List.mem_append.mp member with early | last
    · exact none b early
    · rw [List.mem_singleton.mp last]
      exact other

/-- The schema of the last registration is the one that is registered. -/
theorem LastMade.current (last : LastMade recs settings actions ident schema api) :
    Current (actions.filterMap (·.registered? recs)) schema ident := by
  obtain ⟨before, options, template, r, built, after, rfl, rfl, outcome, none, rfl, _⟩ := last
  have own := Action.registered?_of_build_ok template outcome
  rw [List.filterMap_append, List.filterMap_cons_some own]
  constructor
  · rw [List.getElem?_append_right (Nat.le_refl _), Nat.sub_self]
    rfl
  · rw [List.drop_append, List.drop_eq_nil_of_le (Nat.le_succ _), List.nil_append,
      Nat.add_sub_cancel_left, List.drop_succ_cons, List.drop_zero, List.mem_filterMap]
    rintro ⟨a, member, same⟩
    exact none a member same

/-- An action that does not set the cap of the schema of an identity leaves that schema. -/
theorem lastMade_concat_of_cap?_eq_none {a : Action} (other : a.registered? recs ≠ some ident)
    (noCap : ∀ old, LastMade recs settings actions ident schema old → a.cap? schema = none) :
    LastMade recs settings (actions ++ [a]) ident schema api ↔
      LastMade recs settings actions ident schema api := by
  rw [lastMade_concat other]
  constructor
  · rintro ⟨old, last, rfl⟩
    rw [noCap old last]
    exact last
  · intro last
    exact ⟨api, last, by rw [noCap api last]; rfl⟩

/-! ## Runs -/

/-- The registry of a session is what a run of actions has left. -/
structure Reflects (recs : Records) (settings : Settings) (actions : List Action) (s : Session) :
    Prop where
  limits : s.registry.settings = settings
  made : s.made = actions.filterMap (·.registered? recs)
  tidy : s.Tidy
  entries : ∀ ident api, s.registry.find? ident = some api ↔
    ∃ schema, LastMade recs settings actions ident schema api

theorem reflects_start (settings : Settings) (x : Exchange) :
    Reflects recs settings [] (start settings x) where
  limits := rfl
  made := rfl
  tidy := ⟨List.nodup_nil, fun _ => iff_of_false List.not_mem_nil List.not_mem_nil⟩
  entries := by
    intro ident api
    refine iff_of_false nofun ?_
    rintro ⟨_, before, _, _, _, _, _, split, _⟩
    exact List.append_ne_nil_of_right_ne_nil before (List.cons_ne_nil _ _) split.symm

namespace Reflects

variable {s : Session} {a : Action}

/-- The schema of the last registration is the one that is registered. -/
theorem current (reflects : Reflects recs settings actions s)
    (last : LastMade recs settings actions ident schema api) : Current s.made schema ident :=
  reflects.made ▸ last.current

/-- Where neither the registered schema nor its cap changes, the history does not either. -/
theorem entries_of_quiet (reflects : Reflects recs settings actions s)
    (other : a.registered? recs ≠ some ident)
    (noCap : ∀ schema, Current s.made schema ident → a.cap? schema = none)
    (same : (s.perform recs a).registry.find? ident = s.registry.find? ident) :
    (s.perform recs a).registry.find? ident = some api ↔
      ∃ schema, LastMade recs settings (actions ++ [a]) ident schema api := by
  rw [same, reflects.entries]
  refine exists_congr fun schema => (lastMade_concat_of_cap?_eq_none other ?_).symm
  exact fun old last => noCap schema (reflects.current last)

/-- The history goes on with each action: one more action makes a schema, sets the cap of one, or
does nothing to the registry. -/
theorem entries_perform (reflects : Reflects recs settings actions s) (a : Action)
    (ident : String) (api : ParamsApi) :
    (s.perform recs a).registry.find? ident = some api ↔
      ∃ schema, LastMade recs settings (actions ++ [a]) ident schema api := by
  rcases s.perform_cases recs a with
    ⟨options, template, r, built, rfl, outcome, _, registry⟩ |
      ⟨schema, octets, capped, rfl, current, _, registry⟩ | ⟨none, noCap, _, registry⟩
  · rw [reflects.limits] at registry
    by_cases own : r.ident = ident
    · subst own
      have placed := s.registry.find?_insert
        (Registry.assemble recs settings options template r built)
      rw [registry, show Registry.find? _ r.ident = _ from placed]
      simp only [lastMade_concat_register outcome]
      exact ⟨fun same => ⟨_, rfl, (Option.some.inj same).symm⟩,
        fun ⟨_, _, same⟩ => congrArg some same.symm⟩
    · refine reflects.entries_of_quiet ?_ (fun _ _ => rfl) ?_
      · rw [Action.registered?_of_build_ok template outcome]
        exact fun same => own (Option.some.inj same)
      · rw [registry, Registry.find?_insert_of_ne _ own]
  · by_cases own : capped = ident
    · subst own
      have cap : ∀ number old, LastMade recs settings actions capped number old →
          (Action.setMaxMemory schema octets).cap? number = some octets := by
        intro number old last
        rw [(reflects.current last).unique current, Action.cap?, if_pos rfl]
      have other : (Action.setMaxMemory schema octets).registered? recs ≠ some capped := nofun
      rw [registry, Registry.find?_setMaxMemory, Option.map_eq_some_iff]
      simp only [lastMade_concat other, reflects.entries]
      constructor
      · rintro ⟨old, ⟨number, last⟩, rfl⟩
        exact ⟨number, old, last, by rw [cap number old last]; rfl⟩
      · rintro ⟨number, old, last, rfl⟩
        exact ⟨old, ⟨number, last⟩, by rw [cap number old last]; rfl⟩
    · refine reflects.entries_of_quiet nofun (fun number holds => if_neg ?_) ?_
      · rintro rfl
        exact own (Option.some.inj (current.1.symm.trans holds.1))
      · rw [registry, Registry.find?_setMaxMemory_of_ne _ own]
  · exact reflects.entries_of_quiet (by rw [none]; exact nofun)
      (fun schema holds => noCap schema ident holds) (by rw [registry])

theorem perform (reflects : Reflects recs settings actions s) (a : Action) :
    Reflects recs settings (actions ++ [a]) (s.perform recs a) where
  limits := (settings_perform s a).trans reflects.limits
  made := by
    rw [made_perform, reflects.made, List.filterMap_append]
    cases own : a.registered? recs with
    | none => rw [List.filterMap_cons_none own]; rfl
    | some ident => rw [List.filterMap_cons_some own]; rfl
  tidy := reflects.tidy.perform a
  entries := reflects.entries_perform a

/-- After any run the registry is what the run has left. -/
theorem run (settings : Settings) (x : Exchange) (actions : List Action) :
    Reflects recs settings actions (Session.run recs (start settings x) actions) := by
  induction actions using List.reverseRecOn with
  | nil => exact reflects_start settings x
  | append_singleton actions a ih =>
    rw [Session.run, List.foldl_concat]
    exact ih.perform a

end Reflects

end

/-- A visit is registered twice, and the cap of the schema that has been replaced is set last. -/
example :
    let options : RegisterOptions := { mapper := id, decoder := fun _ => none }
    let s := run {} (start {} {}) [.register options none visit, .setMaxMemory 0 9,
      .register options none visit, .setMaxMemory 1 7, .setMaxMemory 0 5]
    s.registry.size = 1 ∧
      (s.registry.find? visit.ident).map (·.maxMemory) = some 7 := by
  decide +kernel

end Session

end RequestBinding
