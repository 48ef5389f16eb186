import Mathlib.Data.List.Forall2
import SpirvToolchain.Json.Decode

/-! Values that were written as JSON values are read from them. -/
namespace SpirvToolchain.Json

variable {α β : Type} {as : List α} {bs : List β}

/-- A list is read if each of its items is. -/
theorem mapM_eq_some {read? : α → Option β} (h : List.Forall₂ (fun a b => read? a = some b) as bs) :
    as.mapM read? = some bs := by
  induction h with
  | nil => rfl
  | cons hread _ ih =>
    rw [List.mapM_cons, hread, ih]
    rfl

theorem mapM_map_eq_some {encode : β → α} {read? : α → Option β}
    (h : ∀ b, read? (encode b) = some b) (bs : List β) : (bs.map encode).mapM read? = some bs := by
  refine mapM_eq_some (List.forall₂_map_left_iff.2 ?_)
  exact List.forall₂_same.2 fun b _ => h b

theorem list?_array_map {encode : α → Json} {item? : Json → Option α}
    (h : ∀ a, item? (encode a) = some a) (as : List α) :
    list? item? (.array (as.map encode)) = some as :=
  mapM_map_eq_some h as

theorem text?_str (s : String) : text? (.str s) = some s := rfl

theorem list?_strs (ss : List String) : list? text? (.strs ss) = some ss :=
  list?_array_map text?_str ss

theorem word64?_nat (w : UInt64) : word64? (.nat w.toNat) = some w := by
  have hbound := w.toNat_lt
  rw [nat, word64?, if_pos (by omega), Int.toNat_natCast, UInt64.ofNat_toNat]

theorem members?_record (ms : List (String × Json)) : members? (.record ms) = some ms := by
  have hmember (m : String × Json) : member? (some m.1, m.2) = some m := rfl
  exact mapM_map_eq_some hmember ms

end SpirvToolchain.Json
