import RequestBinding.Proofs.Source.Pairs

/-!
# Pairs that share out a family

When the pairs under a key are those of several parts whose keys have nothing in common, the family
of each part is made of the pairs of that part alone (`KeySource.Holds.part`), in whatever order
all the pairs arrive, and the brackets of the source name exactly these parts
(`KeySource.Holds.mem_brackets_iff`). A source that is made from pairs with different keys within a
key holds just these pairs there (`KeySource.holds_ofPairs`).
-/

namespace RequestBinding

namespace Key

/-- No key is within both. -/
def Apart (a b : Key) : Prop :=
  ∀ c, isWithin c a = true → isWithin c b = false

theorem apart_bracketed {a b : Key} (key : Key) (plainA : ']' ∉ a) (plainB : ']' ∉ b)
    (different : a ≠ b) : Apart (key.bracketed a) (key.bracketed b) := by
  intro c withinA
  rw [Bool.eq_false_iff]
  intro withinB
  exact different (eq_of_within_bracketed plainA plainB withinA withinB)

theorem apart_spelled {a b : Key} (key : Key) (s t : Spelling) (plainA : Plain a) (plainB : Plain b)
    (different : a ≠ b) : Apart (key.spelled s a) (key.spelled t b) := by
  intro c withinA
  rw [Bool.eq_false_iff]
  intro withinB
  exact different (eq_of_within_spelled plainA plainB withinA withinB).2

theorem Apart.symm {a b : Key} (apart : Apart a b) : Apart b a := by
  intro c withinB
  rw [Bool.eq_false_iff]
  intro withinA
  rw [apart c withinA] at withinB
  cases withinB

end Key

section

variable {α β : Type} {parts : List α} {keyOf : α → Key} {pairs : α → List (Key × β)}

/-- Of the pairs of parts with nothing in common, those within one part are the pairs of that
part. -/
theorem filter_within_flatMap
    (inside : ∀ p ∈ parts, ∀ e ∈ pairs p, Key.isWithin e.1 (keyOf p) = true)
    (apart : parts.Pairwise fun p q => Key.Apart (keyOf p) (keyOf q)) {p : α} (member : p ∈ parts) :
    (parts.flatMap pairs).filter (fun e => Key.isWithin e.1 (keyOf p)) = pairs p := by
  induction parts with
  | nil => cases member
  | cons q rest ih =>
    obtain ⟨apartHead, apartRest⟩ := List.pairwise_cons.mp apart
    have insideRest := fun r (later : r ∈ rest) => inside r (List.mem_cons_of_mem q later)
    rw [List.flatMap_cons, List.filter_append]
    rcases List.mem_cons.mp member with rfl | later
    · have own : (pairs p).filter (fun e => Key.isWithin e.1 (keyOf p)) = pairs p :=
        List.filter_eq_self.mpr (inside p List.mem_cons_self)
      have others : (rest.flatMap pairs).filter (fun e => Key.isWithin e.1 (keyOf p)) = [] := by
        rw [List.filter_eq_nil_iff]
        intro e present
        obtain ⟨r, later, held⟩ := List.mem_flatMap.mp present
        rw [(apartHead r later).symm e.1 (insideRest r later e held)]
        exact Bool.false_ne_true
      rw [own, others, List.append_nil]
    · have foreign : (pairs q).filter (fun e => Key.isWithin e.1 (keyOf p)) = [] := by
        rw [List.filter_eq_nil_iff]
        intro e present
        rw [apartHead p later e.1 (inside q List.mem_cons_self e present)]
        exact Bool.false_ne_true
      rw [foreign, ih insideRest apartRest later, List.nil_append]

/-- If no key occurs twice in a part, none occurs twice in parts with nothing in common. -/
theorem nodup_keys_flatMap (distinct : ∀ p ∈ parts, ((pairs p).map (·.1)).Nodup)
    (inside : ∀ p ∈ parts, ∀ e ∈ pairs p, Key.isWithin e.1 (keyOf p) = true)
    (apart : parts.Pairwise fun p q => Key.Apart (keyOf p) (keyOf q)) :
    ((parts.flatMap pairs).map (·.1)).Nodup := by
  rw [List.map_flatMap, List.Nodup, List.pairwise_flatMap]
  refine ⟨distinct, apart.imp_of_mem ?_⟩
  intro p q memberP memberQ apartPQ a keyA b keyB same
  obtain ⟨e, heldE, rfl⟩ := List.mem_map.mp keyA
  obtain ⟨e', heldE', rfl⟩ := List.mem_map.mp keyB
  have outside := apartPQ e.1 (inside p memberP e heldE)
  rw [same, inside q memberQ e' heldE'] at outside
  cases outside

end

/-- The pairs that write something under a key: there is one, all are within the key, and none uses
the key of another. -/
structure PairsUnder {β : Type} (key : Key) (pairs : List (Key × β)) : Prop where
  inhabited : pairs ≠ []
  inside : ∀ e ∈ pairs, Key.isWithin e.1 key = true
  distinct : (pairs.map (·.1)).Nodup

theorem PairsUnder.single {β : Type} (key : Key) (b : β) : PairsUnder key [(key, b)] where
  inhabited := List.cons_ne_nil _ _
  inside := by
    intro e member
    rw [List.mem_singleton.mp member]
    exact Key.isWithin_self key
  distinct := List.pairwise_singleton _ _

/-- The parts of something under a key: each is written below the key, and no two have a key in
common. -/
structure PartsUnder {α β : Type} (key : Key) (parts : List α) (keyOf : α → Key)
    (pairs : α → List (Key × β)) : Prop where
  inhabited : parts ≠ []
  below : ∀ p ∈ parts, Key.isPartOf (keyOf p) key = true
  apart : parts.Pairwise fun p q => Key.Apart (keyOf p) (keyOf q)
  each : ∀ p ∈ parts, PairsUnder (keyOf p) (pairs p)

/-- What has its parts under a key is written under the key. -/
theorem PartsUnder.pairsUnder {α β : Type} {key : Key} {parts : List α} {keyOf : α → Key}
    {pairs : α → List (Key × β)} (under : PartsUnder key parts keyOf pairs) :
    PairsUnder key (parts.flatMap pairs) where
  inhabited := by
    intro none
    obtain ⟨p, member⟩ := List.exists_mem_of_ne_nil parts under.inhabited
    exact (under.each p member).inhabited (List.flatMap_eq_nil_iff.mp none p member)
  inside := by
    intro e member
    obtain ⟨p, present, held⟩ := List.mem_flatMap.mp member
    have within := Key.isWithin_of_isPartOf (under.below p present)
    exact Key.isWithin_trans ((under.each p present).inside e held) within
  distinct := nodup_keys_flatMap (fun p member => (under.each p member).distinct)
    (fun p member => (under.each p member).inside) under.apart

namespace KeySource

/-- Under the key the source has the pairs in some order, each with a key of its own. -/
def Holds (src : KeySource) (key : Key) (pairs : List (Key × String)) : Prop :=
  (src.family key).Perm (pairs.map fun p => (p.1, [p.2]))

theorem Holds.mem_iff {src : KeySource} {key : Key} {pairs : List (Key × String)}
    (holds : src.Holds key pairs) {entry : Key × List String} :
    entry ∈ src.family key ↔ ∃ p ∈ pairs, (p.1, [p.2]) = entry := by
  rw [List.Perm.mem_iff holds, List.mem_map]

/-- What is written as one text has this text. -/
theorem Holds.firstValue?_eq {src : KeySource} {key : Key} {text : String}
    (holds : src.Holds key [(key, text)]) : src.firstValue? key = some text := by
  have family : src.family key = [(key, [text])] := List.perm_singleton.mp holds
  rw [firstValue?, values_eq_family, family, List.lookup_cons_self]
  rfl

section

variable {α : Type} {src : KeySource} {key : Key} {parts : List α} {keyOf : α → Key}
  {pairs : α → List (Key × String)} (holds : src.Holds key (parts.flatMap pairs))
  (under : PartsUnder key parts keyOf pairs)

include holds under

/-- The family of a part holds the pairs of the part. -/
theorem Holds.part {p : α} (member : p ∈ parts) : src.Holds (keyOf p) (pairs p) := by
  have own := List.Perm.filter (fun entry => Key.isWithin entry.1 (keyOf p)) holds
  rw [List.filter_map] at own
  have share : (parts.flatMap pairs).filter
      ((fun entry => Key.isWithin entry.1 (keyOf p)) ∘ fun e => (e.1, [e.2])) = pairs p :=
    filter_within_flatMap (fun q present => (under.each q present).inside) under.apart member
  rw [share] at own
  rw [Holds, family_of_within src (Key.isWithin_of_isPartOf (under.below p member))]
  exact own

/-- An entry of the family of the whole is an entry of a part. -/
theorem Holds.exists_part {entry : Key × List String} (member : entry ∈ src.family key) :
    ∃ p ∈ parts, Key.isWithin entry.1 (keyOf p) = true := by
  obtain ⟨e, written, rfl⟩ := holds.mem_iff.mp member
  obtain ⟨p, present, held⟩ := List.mem_flatMap.mp written
  exact ⟨p, present, (under.each p present).inside e held⟩

/-- Every part has an entry in the family of the whole. -/
theorem Holds.exists_entry {p : α} (member : p ∈ parts) :
    ∃ entry ∈ src.family key, Key.isWithin entry.1 (keyOf p) = true := by
  obtain ⟨e, held⟩ := List.exists_mem_of_ne_nil _ (under.each p member).inhabited
  have present := holds.mem_iff.mpr ⟨e, List.mem_flatMap.mpr ⟨p, member, held⟩, rfl⟩
  exact ⟨_, present, (under.each p member).inside e held⟩

theorem Holds.isPartOf_of_mem {entry : Key × List String} (member : entry ∈ src.family key) :
    Key.isPartOf entry.1 key = true := by
  obtain ⟨p, present, within⟩ := holds.exists_part under member
  exact Key.isPartOf_of_isWithin within (under.below p present)

/-- What has parts has no text of its own. -/
theorem Holds.values_eq_nil : src.values key = [] := by
  have missing : (src.family key).lookup key = none := by
    rw [List.lookup_eq_none_iff]
    intro entry member
    rw [bne_iff_ne]
    intro same
    have part := holds.isPartOf_of_mem under member
    rw [← same, Key.not_isPartOf_self] at part
    cases part
  rw [values_eq_family, missing]
  rfl

theorem Holds.hasParts : src.hasParts key = true := by
  obtain ⟨p, present⟩ := List.exists_mem_of_ne_nil parts under.inhabited
  obtain ⟨entry, member, _⟩ := holds.exists_entry under present
  rw [hasParts_eq_family, List.any_eq_true]
  exact ⟨entry, member, holds.isPartOf_of_mem under member⟩

end

/-- Parts whose names stand in brackets are what the brackets of the source say, each as often as
it has pairs. -/
theorem Holds.mem_brackets_iff {α : Type} {src : KeySource} {key : Key} {parts : List α}
    {nameOf : α → Key} {pairs : α → List (Key × String)}
    (holds : src.Holds key (parts.flatMap pairs))
    (under : PartsUnder key parts (fun p => key.bracketed (nameOf p)) pairs)
    (named : ∀ p ∈ parts, nameOf p ≠ []) (unclosed : ∀ p ∈ parts, ']' ∉ nameOf p) {b : Bracket} :
    b ∈ src.brackets key ↔ ∃ p ∈ parts, b = Bracket.ofName key (nameOf p) := by
  have read : ∀ p ∈ parts, ∀ entry : Key × List String,
      Key.isWithin entry.1 (key.bracketed (nameOf p)) = true →
        Bracket.read? key entry = some (Bracket.ofName key (nameOf p)) := by
    intro p present entry within
    obtain ⟨after, shape, _⟩ := Key.isWithin_iff.mp within
    rw [show entry = (key.bracketed (nameOf p) ++ after, entry.2) from Prod.ext shape rfl,
      Bracket.read?_bracketed (unclosed p present), if_neg (named p present)]
  rw [brackets_eq_family, List.mem_filterMap]
  constructor
  · rintro ⟨entry, member, found⟩
    obtain ⟨p, present, within⟩ := holds.exists_part under member
    rw [read p present entry within] at found
    exact ⟨p, present, (Option.some.inj found).symm⟩
  · rintro ⟨p, present, rfl⟩
    obtain ⟨entry, member, within⟩ := holds.exists_entry under present
    exact ⟨entry, member, read p present entry within⟩

/-- A source that is made from pairs with different keys, all within one key, holds them there. -/
theorem holds_ofPairs {key : Key} {written : List (Key × String)} {pairs : List (String × String)}
    (under : PairsUnder key written)
    (arrival : pairs.Perm (written.map fun p => (String.ofList p.1, p.2))) (limit : Nat) :
    (ofPairs pairs limit).Holds key written := by
  have keys : (pairs.map (·.1)).Nodup := by
    have named := List.Perm.map (·.1) arrival
    rw [List.map_map] at named
    have distinct := under.distinct
    rw [List.Nodup, List.pairwise_map] at distinct
    rw [named.nodup_iff, List.Nodup, List.pairwise_map]
    apply distinct.imp
    intro p q different same
    exact different (String.ofList_injective same)
  have arrived : (ofPairs pairs limit).entries.Perm (written.map fun p => (p.1, [p.2])) := by
    rw [entries_ofPairs_of_nodup limit keys]
    have moved := List.Perm.map (fun p : String × String => (p.1.toList, [p.2])) arrival
    rw [List.map_map] at moved
    simpa [Function.comp_def] using moved
  have whole : (ofPairs pairs limit).family key = (ofPairs pairs limit).entries := by
    rw [family, List.filter_eq_self]
    intro entry member
    obtain ⟨p, present, rfl⟩ := List.mem_map.mp (arrived.mem_iff.mp member)
    exact under.inside p present
  rw [Holds, whole]
  exact arrived

end KeySource

end RequestBinding
