import Compaction.Proofs.Registry.Builtin
import Mathlib.Data.List.Induction

/-!
# Registrations one after another

* `Registry.names_map`, `Registry.get_map` : a registry for processors of another kind has the same names, and builds
  what is built, turned into that kind;
* `Registration`, `Registry.offer` : a call that offers a factory under a name, and what it leaves;
* `Registry.register_of_not_mem`, `Registry.register_of_mem` : a name that is not taken is added, and one that is
  taken is an error;
* `Registry.offerAll`, `Registry.chain` : calls one after another, each on what the one before it left, or as a chain
  which ends with the first error;
* `Registry.Registers` : one of the calls adds a name;
* `Registry.ascending_offerAll`, `Registry.mem_names_offerAll_iff`, `Registry.get_offerAll_of_mem` : after all calls the
  names ascend, they are those from the start and those that have been added, and what was found under a name once
  is found there for good;
* `Registry.chain_eq_ok_iff`, `Registry.chain_eq_error_iff` : a chain does what the calls do one after another, as long
  as none of them fails;
* `Registry.first_registration_wins` : all this together.

A registry is a value. So a caller that registers in place keeps the registry it has when a call fails, and a link of
a chain hands on the registry that it returns.
-/

namespace Compaction

/-- A call that offers a factory under a name. -/
structure Registration (α : Type := Processor) where
  name : String
  factory : Factory α

namespace Registry

variable {α β : Type} {registry start : Registry α} {call : Registration α} {calls : List (Registration α)}
  {name : String}

/-! ## Names -/

theorem contains_iff_mem_names : registry.contains name = true ↔ name ∈ registry.names := by
  rw [contains, Table.contains, Table.find?, List.lookup_isSome_iff, names, Table.names, List.mem_map]
  exact exists_congr fun entry => and_congr_right fun _ => beq_iff_eq.trans eq_comm

theorem get_of_not_mem (h : name ∉ registry.names) (args : StageArgs) :
    registry.get name args = .error (.unknownProcessor name) := by
  have hnone : registry.factories.find? name = none := by
    rw [← Option.not_isSome_iff_eq_none]
    exact mt contains_iff_mem_names.mp h
  rw [get, hnone]

/-! ## Processors of another kind -/

theorem names_map (f : α → β) (registry : Registry α) : (registry.map f).names = registry.names := List.map_map

theorem map_id (registry : Registry α) : registry.map id = registry := by
  have hentry : (fun entry : String × Factory α => (entry.1, fun args => (entry.2 args).map id)) = id :=
    funext fun entry => congrArg (Prod.mk entry.1) (funext fun args => Except.map_id ▸ rfl)
  rw [map, hentry, List.map_id]

theorem get_map (f : α → β) (registry : Registry α) (name : String) (args : StageArgs) :
    (registry.map f).get name args = (registry.get name args).map f := by
  have hfind : (registry.map f).factories.find? name =
      (registry.factories.find? name).map fun factory args => (factory args).map f :=
    Table.find?_map (fun (factory : Factory α) (args : StageArgs) => (factory args).map f) registry.factories name
  rw [get, get, hfind]
  cases registry.factories.find? name <;> rfl

/-! ## One call -/

theorem register_of_not_mem (h : call.name ∉ registry.names) : registry.register call.name call.factory =
    .ok (registry.insert call.name call.factory, [.registered call.name]) :=
  if_neg (mt contains_iff_mem_names.mp h)

theorem register_of_mem (h : call.name ∈ registry.names) : registry.register call.name call.factory =
    .error (.duplicateProcessor call.name) :=
  if_pos (contains_iff_mem_names.mpr h)

/-- What a call leaves: the registry with the factory, or as it was if the call fails. -/
def offer (registry : Registry α) (call : Registration α) : Registry α :=
  match registry.register call.name call.factory with
  | .ok (next, _) => next
  | .error _ => registry

theorem offer_of_not_mem (h : call.name ∉ registry.names) :
    registry.offer call = registry.insert call.name call.factory := by
  rw [offer, register_of_not_mem h]

theorem offer_of_mem (h : call.name ∈ registry.names) : registry.offer call = registry := by
  rw [offer, register_of_mem h]

theorem mem_names_offer : name ∈ (registry.offer call).names ↔ name = call.name ∨ name ∈ registry.names := by
  by_cases h : call.name ∈ registry.names
  · rw [offer_of_mem h]
    exact ⟨Or.inr, fun hname => hname.elim (fun heq => heq ▸ h) id⟩
  · rw [offer_of_not_mem h]
    exact Table.mem_names_insert

theorem ascending_offer (h : registry.factories.Ascending) : (registry.offer call).factories.Ascending := by
  by_cases hmem : call.name ∈ registry.names
  · rwa [offer_of_mem hmem]
  · rw [offer_of_not_mem hmem]
    exact Table.ascending_insert h

theorem get_offer_self (h : call.name ∉ registry.names) (args : StageArgs) :
    (registry.offer call).get call.name args = call.factory args := by
  rw [offer_of_not_mem h, get, insert, Table.find?_insert_self]

/-- No call changes what is found under a name that is there. -/
theorem get_offer_of_mem (h : name ∈ registry.names) (args : StageArgs) :
    (registry.offer call).get name args = registry.get name args := by
  by_cases hmem : call.name ∈ registry.names
  · rw [offer_of_mem hmem]
  · have hne : name ≠ call.name := fun heq => hmem (heq ▸ h)
    rw [offer_of_not_mem hmem, get, insert, Table.find?_insert_of_ne hne, get]

/-! ## One call after another -/

def offerAll (registry : Registry α) (calls : List (Registration α)) : Registry α := calls.foldl offer registry

@[simp] theorem offerAll_nil (registry : Registry α) : registry.offerAll [] = registry := rfl

@[simp] theorem offerAll_cons (registry : Registry α) (call : Registration α) (calls : List (Registration α)) :
    registry.offerAll (call :: calls) = (registry.offer call).offerAll calls := rfl

theorem offerAll_append (registry : Registry α) (calls more : List (Registration α)) :
    registry.offerAll (calls ++ more) = (registry.offerAll calls).offerAll more :=
  List.foldl_append

theorem ascending_offerAll (h : registry.factories.Ascending) (calls : List (Registration α)) :
    (registry.offerAll calls).factories.Ascending := by
  induction calls generalizing registry with
  | nil => exact h
  | cons call calls ih => exact ih (ascending_offer h)

theorem mem_names_offerAll (h : name ∈ registry.names) (calls : List (Registration α)) :
    name ∈ (registry.offerAll calls).names := by
  induction calls generalizing registry with
  | nil => exact h
  | cons call calls ih => exact ih (mem_names_offer.mpr (Or.inr h))

theorem get_offerAll_of_mem (h : name ∈ registry.names) (calls : List (Registration α)) (args : StageArgs) :
    (registry.offerAll calls).get name args = registry.get name args := by
  induction calls generalizing registry with
  | nil => rfl
  | cons call calls ih => exact (ih (mem_names_offer.mpr (Or.inr h))).trans (get_offer_of_mem h args)

/-- Among some calls there is one that adds a name. -/
def Registers (start : Registry α) (calls : List (Registration α)) (name : String) : Prop :=
  ∃ before call after, calls = before ++ call :: after ∧ call.name = name ∧
    ∃ result, (start.offerAll before).register call.name call.factory = .ok result

theorem Registers.append {more : List (Registration α)} (h : Registers start calls name) :
    Registers start (calls ++ more) name := by
  obtain ⟨before, call, after, rfl, hname, hok⟩ := h
  exact ⟨before, call, after ++ more, by rw [List.append_assoc, List.cons_append], hname, hok⟩

/-- A name is there from the start, or one of the calls has added it. -/
theorem mem_names_offerAll_iff :
    name ∈ (start.offerAll calls).names ↔ name ∈ start.names ∨ Registers start calls name := by
  constructor
  · -- The last call adds the name, or it was there before that call.
    induction calls using List.reverseRecOn with
    | nil => exact Or.inl
    | append_singleton calls call ih =>
      intro hmem
      by_cases hbefore : name ∈ (start.offerAll calls).names
      · exact (ih hbefore).imp_right Registers.append
      · rw [offerAll_append] at hmem
        obtain rfl := (mem_names_offer.mp hmem).resolve_right hbefore
        exact Or.inr ⟨calls, call, [], rfl, rfl, _, register_of_not_mem hbefore⟩
  · rintro (hstart | ⟨before, call, after, rfl, rfl, -⟩)
    · exact mem_names_offerAll hstart calls
    · rw [offerAll_append]
      exact mem_names_offerAll (mem_names_offer.mpr (Or.inl rfl)) after

/-! ## Chains -/

/-- Calls of which each is made on what the one before it returned. The first that fails is the error. -/
def chain (registry : Registry α) (calls : List (Registration α)) : Except Error (Registry α) :=
  calls.foldlM (fun registry call => (registry.register call.name call.factory).map Prod.fst) registry

theorem chain_cons_of_not_mem (h : call.name ∉ registry.names) (calls : List (Registration α)) :
    registry.chain (call :: calls) = (registry.offer call).chain calls := by
  rw [chain, List.foldlM_cons, register_of_not_mem h, offer_of_not_mem h]
  rfl

theorem chain_cons_of_mem (h : call.name ∈ registry.names) (calls : List (Registration α)) :
    registry.chain (call :: calls) = .error (.duplicateProcessor call.name) := by
  rw [chain, List.foldlM_cons, register_of_mem h]
  rfl

/-- The names of some calls are neither taken nor given twice. -/
def AreNew (registry : Registry α) (calls : List (Registration α)) : Prop :=
  (calls.map Registration.name).Nodup ∧ ∀ call ∈ calls, call.name ∉ registry.names

theorem areNew_cons_iff : registry.AreNew (call :: calls) ↔
    call.name ∉ registry.names ∧ (registry.offer call).AreNew calls := by
  simp only [AreNew, List.map_cons, List.nodup_cons, List.forall_mem_cons, mem_names_offer, not_or, List.mem_map,
    not_exists, not_and]
  constructor
  · rintro ⟨⟨hother, hdistinct⟩, hcall, hcalls⟩
    exact ⟨hcall, hdistinct, fun later hlater => ⟨hother later hlater, hcalls later hlater⟩⟩
  · rintro ⟨hcall, hdistinct, hcalls⟩
    exact ⟨⟨fun later hlater => (hcalls later hlater).1, hdistinct⟩, hcall,
      fun later hlater => (hcalls later hlater).2⟩

theorem chain_eq_ok_iff {next : Registry α} :
    registry.chain calls = .ok next ↔ registry.AreNew calls ∧ next = registry.offerAll calls := by
  induction calls generalizing registry with
  | nil =>
    have hchain : registry.chain [] = .ok registry := rfl
    rw [hchain, Except.ok.injEq, eq_comm]
    exact (and_iff_right ⟨List.nodup_nil, nofun⟩).symm
  | cons call calls ih =>
    rw [areNew_cons_iff]
    by_cases hmem : call.name ∈ registry.names
    · rw [chain_cons_of_mem hmem]
      exact iff_of_false nofun fun h => h.1.1 hmem
    · rw [chain_cons_of_not_mem hmem, ih, and_iff_right hmem]
      rfl

theorem chain_eq_error_iff {error : Error} : registry.chain calls = .error error ↔
    ∃ before call after, calls = before ++ call :: after ∧ registry.AreNew before ∧
      call.name ∈ (registry.offerAll before).names ∧ error = .duplicateProcessor call.name := by
  induction calls generalizing registry with
  | nil => exact iff_of_false nofun fun ⟨before, _, _, h, _⟩ => by simp at h
  | cons first calls ih =>
    by_cases hmem : first.name ∈ registry.names
    · rw [chain_cons_of_mem hmem]
      constructor
      · intro h
        exact ⟨[], first, calls, rfl, ⟨List.nodup_nil, nofun⟩, hmem, (Except.error.inj h).symm⟩
      · rintro ⟨_ | ⟨earlier, before⟩, call, after, hsplit, hnew, -, rfl⟩
        · obtain ⟨rfl, -⟩ := List.cons.inj hsplit
          rfl
        · obtain ⟨rfl, -⟩ := List.cons.inj hsplit
          exact absurd hmem (areNew_cons_iff.mp hnew).1
    · rw [chain_cons_of_not_mem hmem, ih]
      constructor
      · rintro ⟨before, call, after, rfl, hnew, hcall, rfl⟩
        exact ⟨first :: before, call, after, rfl, areNew_cons_iff.mpr ⟨hmem, hnew⟩, hcall, rfl⟩
      · rintro ⟨_ | ⟨earlier, before⟩, call, after, hsplit, hnew, hcall, rfl⟩
        · obtain ⟨rfl, -⟩ := List.cons.inj hsplit
          exact absurd hcall hmem
        · obtain ⟨rfl, rfl⟩ := List.cons.inj hsplit
          exact ⟨before, call, after, rfl, (areNew_cons_iff.mp hnew).2, hcall, rfl⟩

/-! ## Main result -/

theorem ascending_start (hstart : start = .empty ∨ ∃ embed : Processor → α, start = builtin.map embed) :
    start.factories.Ascending := by
  rcases hstart with rfl | ⟨embed, rfl⟩
  · exact List.Pairwise.nil
  · have hbuiltin : builtin.factories.Ascending := factories_builtin ▸ Table.ascending_ofEntries Builtin.all
    show (builtin.map embed).names.Pairwise (· < ·)
    rwa [names_map]

/-- **The first registration under a name is the one that counts**, whatever calls come before and behind it. Let a
registry for processors of any kind be empty, or hold the built-in ones as processors of that kind. After any calls on
it, the names ascend strictly, and there is a factory under just these names. A further call succeeds if and only if its name is not among them, and then adds that name and no other; if it
fails, the registry is as it was. What a name that is there leads to stays the same after all later calls, and a name
that is there has been there from the start or has been added by a call. All other names lead to an error. A chain of
calls leaves what the calls leave one after another, unless one of their names is taken, which is then the error. -/
theorem first_registration_wins (start : Registry α)
    (hstart : start = .empty ∨ ∃ embed : Processor → α, start = builtin.map embed) (calls : List (Registration α)) :
    (start.offerAll calls).names.Pairwise (· < ·) ∧
    (∀ name, (start.offerAll calls).contains name = true ↔ name ∈ (start.offerAll calls).names) ∧
    (∀ call : Registration α, call.name ∉ (start.offerAll calls).names → ∃ next,
      (start.offerAll calls).register call.name call.factory = .ok (next, [.registered call.name]) ∧
      (start.offerAll calls).offer call = next ∧
      (∀ name, name ∈ next.names ↔ name = call.name ∨ name ∈ (start.offerAll calls).names) ∧
      ∀ later args, (next.offerAll later).get call.name args = call.factory args) ∧
    (∀ call : Registration α, call.name ∈ (start.offerAll calls).names →
      (start.offerAll calls).register call.name call.factory = .error (.duplicateProcessor call.name) ∧
      (start.offerAll calls).offer call = start.offerAll calls) ∧
    (∀ name ∈ (start.offerAll calls).names, ∀ later args,
      ((start.offerAll calls).offerAll later).get name args = (start.offerAll calls).get name args) ∧
    (∀ name, name ∉ start.names → ¬ Registers start calls name → ∀ args,
      (start.offerAll calls).get name args = .error (.unknownProcessor name)) ∧
    (∀ next, start.chain calls = .ok next ↔ start.AreNew calls ∧ next = start.offerAll calls) ∧
    ∀ error, start.chain calls = .error error ↔
      ∃ before call after, calls = before ++ call :: after ∧ start.AreNew before ∧
        call.name ∈ (start.offerAll before).names ∧ error = .duplicateProcessor call.name := by
  refine ⟨ascending_offerAll (ascending_start hstart) calls, fun _ => contains_iff_mem_names, ?_, ?_, ?_, ?_,
    fun _ => chain_eq_ok_iff, fun _ => chain_eq_error_iff⟩
  · intro call hnew
    refine ⟨_, register_of_not_mem hnew, offer_of_not_mem hnew, ?_, ?_⟩
    · intro name
      rw [← offer_of_not_mem hnew, mem_names_offer]
    · intro later args
      rw [← offer_of_not_mem hnew, get_offerAll_of_mem (mem_names_offer.mpr (Or.inl rfl)), get_offer_self hnew]
  · intro call htaken
    exact ⟨register_of_mem htaken, offer_of_mem htaken⟩
  · intro name hname later args
    exact get_offerAll_of_mem hname later args
  · intro name hstart' hnone args
    refine get_of_not_mem ?_ args
    rw [mem_names_offerAll_iff]
    exact not_or.mpr ⟨hstart', hnone⟩

/-- A processor that is not built in: it leaves nothing but the last entry. -/
def lastEntry : AnyProcessor := ⟨"last_entry", fun h => ⟨h.drop (h.length - 1), []⟩⟩

def amongAny : Registry AnyProcessor := builtin.map Processor.toAny

/-- Three calls, of which only the first succeeds next to the built-in processors. -/
def windowTwice : List (Registration AnyProcessor) :=
  [⟨"window", fun _ => .ok lastEntry⟩, ⟨"default", fun _ => .ok lastEntry⟩,
    ⟨"window", fun args => (Builtin.identity args).map Processor.toAny⟩]

/-- The built-in processor and the first of the two new ones stay, and names are told apart by case. -/
theorem first_registration_wins_windowTwice :
    (amongAny.offerAll windowTwice).names.Pairwise (· < ·) ∧
    amongAny.offerAll windowTwice = amongAny.offerAll [⟨"window", fun _ => .ok lastEntry⟩] ∧
    (∀ args, (amongAny.offerAll windowTwice).get "default" args = .ok Processor.identity.toAny) ∧
    (∀ args, (amongAny.offerAll windowTwice).get "window" args = .ok lastEntry) ∧
    (∀ args, (amongAny.offerAll windowTwice).get "Window" args = .error (.unknownProcessor "Window")) ∧
    amongAny.chain windowTwice = .error (.duplicateProcessor "default") ∧
    ∀ args, (builtin.offerAll [⟨"window", Builtin.staleWindows⟩]).get "default" args = .ok .identity := by
  have hstart : amongAny = .empty ∨ ∃ embed, amongAny = builtin.map embed := Or.inr ⟨_, rfl⟩
  obtain ⟨hascending, -, -, -, -, hunknown, -, hchain⟩ := first_registration_wins amongAny hstart windowTwice
  obtain ⟨-, -, hnew, -, hfound, -⟩ := first_registration_wins amongAny hstart []
  obtain ⟨-, -, -, htaken, -⟩ := first_registration_wins amongAny hstart [⟨"window", fun _ => .ok lastEntry⟩]
  obtain ⟨-, -, -, -, hbuiltin, -⟩ := first_registration_wins builtin (Or.inr ⟨id, (map_id _).symm⟩) []
  rw [offerAll_nil] at hnew hfound hbuiltin
  obtain ⟨next, -, hnext, -, hwindow⟩ := hnew ⟨"window", fun _ => .ok lastEntry⟩ (by decide)
  have hidentity : ∀ args, builtin.get "default" args = .ok .identity := fun _ => rfl
  refine ⟨hascending, ?_, ?_, ?_, ?_, ?_, ?_⟩
  · -- The second call and the third one find their names taken.
    have hdefault := (htaken ⟨"default", fun _ => .ok lastEntry⟩ (by decide)).2
    have hagain := (htaken ⟨"window", fun args => (Builtin.identity args).map Processor.toAny⟩ (by decide)).2
    have hsplit : windowTwice = [⟨"window", fun _ => .ok lastEntry⟩] ++ [⟨"default", fun _ => .ok lastEntry⟩,
      ⟨"window", fun args => (Builtin.identity args).map Processor.toAny⟩] := rfl
    rw [hsplit, offerAll_append, offerAll_cons, hdefault, offerAll_cons, hagain, offerAll_nil]
  · intro args
    rw [hfound "default" (by decide) windowTwice, amongAny, get_map, hidentity]
    rfl
  · -- The first of the three calls is made on the built-in registry itself.
    rw [windowTwice, offerAll_cons, hnext]
    exact hwindow _
  · refine hunknown "Window" (by decide) ?_
    rintro ⟨before, call, after, hsplit, hname, -⟩
    have hmem : call.name ∈ windowTwice.map Registration.name :=
      List.mem_map_of_mem (hsplit ▸ List.mem_append_right before List.mem_cons_self)
    rw [hname] at hmem
    revert hmem
    decide
  · refine (hchain _).mpr ⟨[_], _, [_], rfl, ⟨List.pairwise_singleton _ _, ?_⟩, by decide, rfl⟩
    exact List.forall_mem_singleton.mpr (by decide)
  · intro args
    rw [hbuiltin "default" (by decide), hidentity]

end Registry

end Compaction
