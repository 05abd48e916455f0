import Compaction.Json.Node

/-!
# Nodes of values

* `Value.depth` : how many containers are nested in a value;
* `Value.canonicalMembers_eq_map` : the members with canonical values, one by one;
* `Node.areWhole_iff`, `Node.areWholeMembers_iff` : containers are whole if all that they hold is;
* `Node.isWhole_ofValue` : the node of a value is whole;
* `Node.toValue?_ofValue` : and stands for that value, unless that is nested too deep;
* `Node.ofNamed` : the node of an object whose names can be read.
-/

namespace Compaction.Json

namespace Value

mutual

def depth : Value → Nat
  | array items => depthOfItems items + 1
  | object members => depthOfMembers members + 1
  | _ => 0

def depthOfItems : List Value → Nat
  | [] => 0
  | v :: vs => max v.depth (depthOfItems vs)

def depthOfMembers : List (String × Value) → Nat
  | [] => 0
  | (_, v) :: members => max v.depth (depthOfMembers members)

end

theorem canonicalMembers_eq_map (members : List (String × Value)) :
    canonicalMembers members = members.map fun m => (m.1, m.2.canonical) := by
  induction members with
  | nil => rfl
  | cons m members ih => rw [canonicalMembers, ih, List.map_cons]

end Value

namespace Node

theorem areWhole_iff {nodes : List Node} : areWhole nodes = true ↔ ∀ node ∈ nodes, node.isWhole = true := by
  induction nodes with
  | nil => exact iff_of_true rfl nofun
  | cons node nodes ih => rw [areWhole, Bool.and_eq_true, ih, List.forall_mem_cons]

theorem areWholeMembers_iff {members : List (Option String × Node)} :
    areWholeMembers members = true ↔ ∀ m ∈ members, m.2.isWhole = true := by
  induction members with
  | nil => exact iff_of_true rfl nofun
  | cons m members ih => rw [areWholeMembers, Bool.and_eq_true, ih, List.forall_mem_cons]

mutual

theorem isWhole_ofValue : ∀ v : Value, (ofValue v).isWhole = true
  | .null | .bool _ | .number _ | .string _ => rfl
  | .array items => by rw [ofValue, isWhole, areWhole_ofValues]
  | .object members => by rw [ofValue, isWhole, areWholeMembers_ofMembers]

theorem areWhole_ofValues : ∀ vs : List Value, areWhole (ofValues vs) = true
  | [] => rfl
  | v :: vs => by rw [ofValues, areWhole, isWhole_ofValue v, areWhole_ofValues vs, Bool.and_self]

theorem areWholeMembers_ofMembers : ∀ members : List (String × Value),
    areWholeMembers (ofMembers members) = true
  | [] => rfl
  | (_, v) :: members => by
    rw [ofMembers, areWholeMembers, isWhole_ofValue v, areWholeMembers_ofMembers members, Bool.and_self]

end

mutual

/-- The node of a value stands for that value if there is room for what is nested in it. -/
theorem toValue?_ofValue : ∀ {v : Value} {room : Nat}, v.depth ≤ room → (ofValue v).toValue? room = some v
  | .null, _, _ | .bool _, _, _ => by rw [ofValue, toValue?]
  | .number _, _, _ | .string _, _, _ => by rw [ofValue, toValue?, Option.map_some]
  | .array items, 0, h => by simp [Value.depth] at h
  | .array items, room + 1, h => by
    have hitems : Value.depthOfItems items ≤ room := by simpa [Value.depth] using h
    rw [ofValue, toValue?, toValues?_ofValues hitems, Option.map_some]
  | .object members, 0, h => by simp [Value.depth] at h
  | .object members, room + 1, h => by
    have hmembers : Value.depthOfMembers members ≤ room := by simpa [Value.depth] using h
    rw [ofValue, toValue?, toMembers?_ofMembers hmembers, Option.map_some]

theorem toValues?_ofValues : ∀ {vs : List Value} {room : Nat}, Value.depthOfItems vs ≤ room →
    toValues? room (ofValues vs) = some vs
  | [], _, _ => by rw [ofValues, toValues?]
  | v :: vs, room, h => by
    rw [Value.depthOfItems, Nat.max_le] at h
    rw [ofValues, toValues?, toValue?_ofValue h.1, toValues?_ofValues h.2]
    rfl

theorem toMembers?_ofMembers : ∀ {members : List (String × Value)} {room : Nat},
    Value.depthOfMembers members ≤ room → toMembers? room (ofMembers members) = some members
  | [], _, _ => by rw [ofMembers, toMembers?]
  | (_, v) :: members, room, h => by
    rw [Value.depthOfMembers, Nat.max_le] at h
    rw [ofMembers, toMembers?, toValue?_ofValue h.1, toMembers?_ofMembers h.2]
    rfl

end

theorem ofMembers_eq_map (members : List (String × Value)) :
    ofMembers members = members.map fun m => (some m.1, ofValue m.2) := by
  induction members with
  | nil => rfl
  | cons m members ih => rw [ofMembers, ih, List.map_cons]

theorem ofMembers_append (before after : List (String × Value)) :
    ofMembers (before ++ after) = ofMembers before ++ ofMembers after := by
  rw [ofMembers_eq_map, ofMembers_eq_map, ofMembers_eq_map, List.map_append]

/-! ## Named members -/

/-- The members of an object, all of whose names can be read. -/
def named (members : List (String × Node)) : List (Option String × Node) :=
  members.map fun m => (some m.1, m.2)

theorem mem_named {members : List (String × Node)} {name : String} {node : Node} :
    (some name, node) ∈ named members ↔ (name, node) ∈ members := by
  rw [named, List.mem_map]
  constructor
  · rintro ⟨⟨name', node'⟩, hm, heq⟩
    obtain ⟨hname, rfl⟩ := Prod.mk.inj heq
    obtain rfl := Option.some.inj hname
    exact hm
  · exact fun hm => ⟨(name, node), hm, rfl⟩

def ofNamed (members : List (String × Node)) : Node := object (named members)

theorem isWhole_ofNamed {members : List (String × Node)} :
    (ofNamed members).isWhole = true ↔ ∀ m ∈ members, m.2.isWhole = true := by
  rw [ofNamed, isWhole, areWholeMembers_iff, named, List.forall_mem_map]

end Node

end Compaction.Json
