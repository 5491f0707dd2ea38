import EnvoySidecar.Proofs.Yaml.Reading.Values

/-! What a manifest has in common with what its text is read back as. Names, order and integers
stay; a text may lose spaces and breaks or gain spaces, and nothing else. -/

namespace EnvoySidecar.Manifest

open Yaml

mutual

def bare : Manifest → Manifest
  | .text s => .text (String.ofList (Fold.bare s.toList))
  | .list items => .list (bareItems items)
  | .record fields => .record (bareFields fields)
  | .null => .null
  | .int n => .int n

def bareItems : List Manifest → List Manifest
  | [] => []
  | m :: rest => m.bare :: bareItems rest

def bareFields : List (String × Manifest) → List (String × Manifest)
  | [] => []
  | (name, m) :: rest => (name, m.bare) :: bareFields rest

end

mutual

def strings : Manifest → List String
  | .text s => [s]
  | .list items => itemStrings items
  | .record fields => fieldStrings fields
  | _ => []

def itemStrings : List Manifest → List String
  | [] => []
  | m :: rest => m.strings ++ itemStrings rest

def fieldStrings : List (String × Manifest) → List String
  | [] => []
  | (_, m) :: rest => m.strings ++ fieldStrings rest

end

mutual

theorem bare_readBack (indent column : Nat) :
    (m : Manifest) → (readBack indent column m).bare = m.bare
  | .null | .int _ => rfl
  | .text s => by
    rw [readBack, bare, bare, String.toList_ofList, Fold.bare_left]
  | .list items => by
    rw [readBack, bare, bare, bareItems_itemsBack indent items]
  | .record fields => by
    rw [readBack, bare, bare, bareFields_fieldsBack indent fields]

theorem bareItems_itemsBack (indent : Nat) :
    (ms : List Manifest) → bareItems (itemsBack indent ms) = bareItems ms
  | [] => rfl
  | m :: rest => by
    rw [itemsBack, bareItems, bareItems, bare_readBack indent indent m,
      bareItems_itemsBack indent rest]

theorem bareFields_fieldsBack (indent : Nat) :
    (fs : List (String × Manifest)) → bareFields (fieldsBack indent fs) = bareFields fs
  | [] => rfl
  | (name, m) :: rest => by
    rw [fieldsBack, bareFields, bareFields, bare_readBack (indent + 2) _ m,
      bareFields_fieldsBack indent rest]

end

mutual

theorem readBack_of_clear (indent column : Nat) : (m : Manifest) →
    (∀ s ∈ m.strings, Fold.Clear s.toList) → readBack indent column m = m
  | .null, _ | .int _, _ => rfl
  | .text s, h => by
    rw [readBack, Fold.left_of_clear (h s (by simp [strings])), String.ofList_toList]
  | .list items, h => by
    rw [readBack, itemsBack_of_clear indent items (by simpa [strings] using h)]
  | .record fields, h => by
    rw [readBack, fieldsBack_of_clear indent fields (by simpa [strings] using h)]

theorem itemsBack_of_clear (indent : Nat) : (ms : List Manifest) →
    (∀ s ∈ itemStrings ms, Fold.Clear s.toList) → itemsBack indent ms = ms
  | [], _ => rfl
  | m :: rest, h => by
    rw [itemStrings, List.forall_mem_append] at h
    rw [itemsBack, readBack_of_clear indent indent m h.1, itemsBack_of_clear indent rest h.2]

theorem fieldsBack_of_clear (indent : Nat) : (fs : List (String × Manifest)) →
    (∀ s ∈ fieldStrings fs, Fold.Clear s.toList) → fieldsBack indent fs = fs
  | [], _ => rfl
  | (name, m) :: rest, h => by
    rw [fieldStrings, List.forall_mem_append] at h
    rw [fieldsBack, readBack_of_clear (indent + 2) _ m h.1, fieldsBack_of_clear indent rest h.2]

end

mutual

theorem toValue_inj : {m n : Manifest} → m.toValue = n.toValue → m = n
  | .null, .null, _ => rfl
  | .int _, .int _, h => by
    cases h
    rfl
  | .text _, .text _, h => by
    cases h
    rfl
  | .list _, .list _, h => by
    rw [toValue, toValue, Value.list.injEq] at h
    rw [itemValues_inj h]
  | .record _, .record _, h => by
    rw [toValue, toValue, Value.map.injEq] at h
    rw [fieldValues_inj h]

theorem itemValues_inj : {ms ns : List Manifest} → itemValues ms = itemValues ns → ms = ns
  | [], [], _ => rfl
  | _ :: _, _ :: _, h => by
    rw [itemValues, itemValues, List.cons.injEq] at h
    rw [toValue_inj h.1, itemValues_inj h.2]

theorem fieldValues_inj : {fs gs : List (String × Manifest)} →
    fieldValues fs = fieldValues gs → fs = gs
  | [], [], _ => rfl
  | (_, _) :: _, (_, _) :: _, h => by
    rw [fieldValues, fieldValues, List.cons.injEq, Prod.mk.injEq, Value.text.injEq] at h
    rw [h.1.1, toValue_inj h.1.2, fieldValues_inj h.2]

end

theorem toValue_injective : Function.Injective toValue :=
  fun _ _ => toValue_inj

end EnvoySidecar.Manifest
