import Mathlib.Data.List.Nodup
import StrimziTransport.Typed

/-!
`MergeObjects` of `operator/pkg/utils` on typed values: the desired object's encoding is
merge-patched into the existing object's and the result unmarshalled. A field the desired
object writes becomes the merge of what it writes into the existing field; a field it leaves
out keeps the existing one. Merging two typed values never fails to unmarshal, and a field
overwritten after the merge (as `EnsureTopic` carries the live replicas forward) leaves the
rest of the result settled.
-/

namespace StrimziTransport

/-- `json.Unmarshal`'s error for a document that does not fit the object's type. -/
def unmarshalTypeError : String := "json: cannot unmarshal"

/-- `utils.MergeObjects(existingObj, desiredObj, updatedObj)`. Marshalling a typed value
cannot fail, so the errors are those of `jsonpatch.MergePatch` and `json.Unmarshal`. -/
def mergeObjects (t : Ty) (existingObj desiredObj : Json) : Except String Json := do
  let patchedData ← mergePatch (t.encode existingObj) (t.encode desiredObj)
  match t.decode patchedData with
  | some updatedObj => pure updatedObj
  | none => throw unmarshalTypeError

namespace Json

/-- `x.F = v` on a struct value. -/
def setField (j : Json) (k : String) (v : Json) : Json :=
  match j with
  | .obj ms => .obj (setMember k v ms)
  | j => j

theorem field_setField (k k' : String) (v : Json) (ms : List (String × Json)) :
    ((Json.obj ms).setField k v).field k' = if k' = k then v else (Json.obj ms).field k' := by
  show (Json.obj (setMember k v ms)).field k' = _
  rw [obj_field, obj_field, lookup_setMember]
  split <;> rfl

theorem cleanList_iff (xs : List Json) : cleanList xs = true ↔ ∀ x ∈ xs, x.clean = true := by
  induction xs with
  | nil => simp [cleanList]
  | cons x xs ih => simp [cleanList, ih]

theorem cleanMembers_iff (ms : List (String × Json)) :
    cleanMembers ms = true ↔ ∀ m ∈ ms, m.2.clean = true := by
  induction ms with
  | nil => simp [cleanMembers]
  | cons m ms ih => obtain ⟨k, v⟩ := m; simp [cleanMembers, ih]

end Json

namespace Ty

theorem mergeObjects_struct_eq_ok {fs : List (String × Bool × Ty)} {e d u : Json} :
    mergeObjects (.struct fs) e d = .ok u ↔
      (Ty.struct fs).decode (merge ((Ty.struct fs).encode e) ((Ty.struct fs).encode d)) =
          some u := by
  show (match (Ty.struct fs).decode (merge ((Ty.struct fs).encode e) ((Ty.struct fs).encode d)) with
    | some updatedObj => Except.ok updatedObj
    | none => Except.error unmarshalTypeError) = .ok u ↔ _
  split <;> simp_all

section Encoding

theorem encodeFields_keys_sublist (fs : List (String × Bool × Ty)) (v : Json) :
    List.Sublist ((encodeFields fs v).map Prod.fst) (fs.map (·.1)) := by
  induction fs with
  | nil => exact .slnil
  | cons f fs ih =>
      obtain ⟨n, om, t⟩ := f
      simp only [encodeFields]
      split
      · exact ih.cons _
      · exact ih.cons₂ _

theorem encodeFields_nodup {fs : List (String × Bool × Ty)} (hd : (fs.map (·.1)).Nodup) (v : Json) :
    ((encodeFields fs v).map Prod.fst).Nodup :=
  (encodeFields_keys_sublist fs v).nodup hd

theorem mem_encodeFields {fs : List (String × Bool × Ty)} {v : Json} {m : String × Json}
    (hm : m ∈ encodeFields fs v) :
    ∃ f ∈ fs, (f.2.1 && f.2.2.isEmpty (v.field f.1)) = false ∧ m =
        (f.1, f.2.2.encode (v.field f.1)) := by
  induction fs with
  | nil => cases hm
  | cons f fs ih =>
      obtain ⟨n, om, t⟩ := f
      simp only [encodeFields] at hm
      split at hm
      · obtain ⟨g, hg, h⟩ := ih hm
        exact ⟨g, List.mem_cons_of_mem _ hg, h⟩
      · rcases List.mem_cons.mp hm with rfl | hm
        · exact ⟨_, List.mem_cons_self _ _, Bool.eq_false_iff.mpr ‹_›, rfl⟩
        · obtain ⟨g, hg, h⟩ := ih hm
          exact ⟨g, List.mem_cons_of_mem _ hg, h⟩

theorem encodeField_eq {om : Bool} (t : Ty) {a b : Json} (ha : t.typed a = true)
    (hb : t.typed b = true)
    (h : (if om && t.isEmpty a then .null else t.encode a) =
      (if om && t.isEmpty b then .null else t.encode b)) :
    (om && t.isEmpty a) = (om && t.isEmpty b) ∧
      ((om && t.isEmpty a) = false → t.encode a = t.encode b) := by
  have dropped : ∀ {a b : Json}, t.typed b = true → (om && t.isEmpty a) = true →
      (.null : Json) = t.encode b → (om && t.isEmpty b) = true := by
    intro a b hb ha h
    simp only [Bool.and_eq_true] at ha ⊢
    have h0 := (encode_eq_null_iff t hb).mp h.symm
    exact ⟨ha.1, h0 ▸ isEmpty_null_of_isEmpty t ha.2 (h0 ▸ hb)⟩
  by_cases ha0 : (om && t.isEmpty a) = true <;> by_cases hb0 : (om && t.isEmpty b) = true
  · exact ⟨ha0.trans hb0.symm, fun h => absurd ha0 (by rw [h]; decide)⟩
  · rw [if_pos ha0, if_neg hb0] at h
    exact absurd (dropped hb ha0 h) hb0
  · rw [if_neg ha0, if_pos hb0] at h
    exact absurd (dropped ha hb0 h.symm) ha0
  · rw [if_neg ha0, if_neg hb0] at h
    exact ⟨by rw [Bool.eq_false_iff.mpr ha0, Bool.eq_false_iff.mpr hb0], fun _ => h⟩

theorem field_encode_ptr {fs : List (String × Bool × Ty)} (hd : (fs.map (·.1)).Nodup)
    {n : String} {om : Bool} {t : Ty} (hf : (n, om, .ptr t) ∈ fs) (v : Json) :
    ((Ty.struct fs).encode v).field n = (Ty.ptr t).encode (v.field n) := by
  rw [field_encode_struct hd hf]
  dsimp only
  split
  · rename_i h
    simp only [Bool.and_eq_true] at h
    rw [beq_iff_eq.mp h.2]; rfl
  · rfl

theorem encodeFields_congr_of_field_eq {fs : List (String × Bool × Ty)} {a b : Json}
    (h : ∀ f ∈ fs, a.field f.1 = b.field f.1) : encodeFields fs a = encodeFields fs b :=
  encodeFields_congr fun f hf => by rw [h f hf]; exact ⟨rfl, fun _ => rfl⟩

mutual
/-- A value whose encoding holds no `null` and no repeated key: every nil pointer, slice or
map sits in an `omitempty` field, and its maps and raw documents are clean. -/
def filled : Ty → Json → Bool
  | .ptr _, .null => false
  | .ptr t, v => filled t v
  | .slice t, .arr xs => xs.all (filled t)
  | .slice _, _ => false
  | .map, v | .raw, v => v.clean
  | .struct fs, v => filledFields fs v
  | _, _ => true

def filledFields : List (String × Bool × Ty) → Json → Bool
  | [], _ => true
  | (name, omitEmpty, t) :: fs, v =>
      (filled t (v.field name) || omitEmpty && t.isEmpty (v.field name)) && filledFields fs v
end

theorem filled_ptr_of_ne_null (t : Ty) {v : Json} (hv : v ≠ .null) :
    filled (.ptr t) v = filled t v := by
  cases v <;> first | rfl | exact absurd rfl hv

theorem filledFields_iff (fs : List (String × Bool × Ty)) (v : Json) :
    filledFields fs v = true ↔
      ∀ f ∈ fs, (f.2.2.filled (v.field f.1) || f.2.1 && f.2.2.isEmpty (v.field f.1)) = true := by
  induction fs with
  | nil => exact iff_of_true rfl (by simp)
  | cons f fs ih =>
      obtain ⟨n, om, t⟩ := f
      show ((filled t (v.field n) || om && t.isEmpty (v.field n)) && filledFields fs v) = true ↔ _
      rw [Bool.and_eq_true, ih, List.forall_mem_cons]

theorem clean_encode (t : Ty) (hd : t.distinct = true) :
    ∀ {v : Json}, t.typed v = true → t.filled v = true → (t.encode v).clean = true := by
  induction t using Ty.induction with
  | bool | int | string => intro v _ _; rfl
  | raw => intro v _ h; exact h
  | map =>
      intro v hv h
      cases v <;> first | exact h | cases hv
  | ptr t ih =>
      intro v hv h
      have h0 : v ≠ .null := by rintro rfl; cases h
      rw [encode_ptr_of_ne_null t h0]
      rw [typed_ptr_of_ne_null t h0] at hv
      rw [filled_ptr_of_ne_null t h0] at h
      exact ih hd hv h
  | slice t ih =>
      intro v hv h
      cases v
      case arr xs =>
        change xs.all t.typed = true at hv
        change xs.all t.filled = true at h
        rw [List.all_eq_true] at hv h
        show (Json.arr (xs.map t.encode)).clean = true
        refine (Json.cleanList_iff _).mpr fun y hy => ?_
        obtain ⟨x, hx, rfl⟩ := List.mem_map.mp hy
        exact ih hd (hv x hx) (h x hx)
      all_goals cases h
  | struct fs ih =>
      intro v hv h
      have hd' := (distinct_struct_iff fs).mp hd
      have hv' := ((typed_struct_iff fs v).mp hv).2
      have h' := (filledFields_iff fs v).mp h
      show (decide _ && Json.cleanMembers (encodeFields fs v)) = true
      rw [Bool.and_eq_true, decide_eq_true_iff]
      refine ⟨encodeFields_nodup hd'.1 v, (Json.cleanMembers_iff _).mpr fun m hm => ?_⟩
      obtain ⟨f, hf, hkept, rfl⟩ := mem_encodeFields hm
      have := h' f hf
      rw [hkept, Bool.or_false] at this
      exact ih f hf (hd'.2 f hf) (hv' f hf) this

end Encoding

section Merge

theorem decode_merge_field {fs : List (String × Bool × Ty)} (hd : (fs.map (·.1)).Nodup)
    {f : String × Bool × Ty} (hf : f ∈ fs) {x d u : Json}
    (h : (Ty.struct fs).decode (merge x ((Ty.struct fs).encode d)) = some u) :
    f.2.2.decode (if f.2.1 && f.2.2.isEmpty (d.field f.1) then x.field f.1
      else merge (x.field f.1) (f.2.2.encode (d.field f.1))) = some (u.field f.1) := by
  have hu := field_decode_struct hd h hf
  rw [show (Ty.struct fs).encode d = .obj (encodeFields fs d) from rfl,
    field_merge_obj _ _ (encodeFields_nodup hd d), lookup_encodeFields hd hf] at hu
  by_cases hc : (f.2.1 && f.2.2.isEmpty (d.field f.1)) = true
  · rw [if_pos hc] at hu ⊢; exact hu
  · rw [if_neg hc] at hu ⊢; exact hu

theorem decode_merge_written {fs : List (String × Bool × Ty)} (hd : (fs.map (·.1)).Nodup)
    {f : String × Bool × Ty} (hf : f ∈ fs) {x d u : Json}
    (hw : (f.2.1 && f.2.2.isEmpty (d.field f.1)) = false)
    (h : (Ty.struct fs).decode (merge x ((Ty.struct fs).encode d)) = some u) :
    f.2.2.decode (merge (x.field f.1) (f.2.2.encode (d.field f.1))) = some (u.field f.1) := by
  have := decode_merge_field hd hf h
  rwa [if_neg (by rw [hw]; decide)] at this

theorem decode_merge_ptr (t : Ty) {x d u : Json} (hne : (Ty.ptr t).encode d ≠ .null)
    (h : (Ty.ptr t).decode (merge x ((Ty.ptr t).encode d)) = some u) :
    t.decode (merge x (t.encode d)) = some u := by
  have hd0 : d ≠ .null := by rintro rfl; exact hne rfl
  rw [encode_ptr_of_ne_null t hd0] at hne h
  rwa [decode_ptr_of_ne_null t (merge_ne_null x hne)] at h

theorem decode_member (t : Ty) (hd : t.distinct = true) (c : Bool) {v : Json}
    (hv : t.typed v = true) : ∃ w, t.decode (if c then .null else t.encode v) = some w := by
  split
  · exact ⟨_, decode_null t⟩
  · obtain ⟨w, hw, -⟩ := decode_encode t hd hv
    exact ⟨w, hw⟩

theorem decode_merge_encode (t : Ty) (hd : t.distinct = true) :
    ∀ {x y : Json}, t.typed x = true → t.typed y = true → (t.encode y).clean = true →
      ∃ w, t.decode (merge (t.encode x) (t.encode y)) = some w := by
  have replaced : ∀ (t : Ty), t.distinct = true → ∀ {x y : Json}, t.typed y = true →
      (∀ ms, t.encode y ≠ .obj ms) → (t.encode y).clean = true →
      ∃ w, t.decode (merge x (t.encode y)) = some w := by
    intro t hd x y hy hno hc
    rw [merge_of_not_obj x hno hc]
    obtain ⟨w, hw, -⟩ := decode_encode t hd hy
    exact ⟨w, hw⟩
  induction t using Ty.induction with
  | bool | int | string => intro x y _ hy hc; exact replaced _ hd hy (fun _ h => by cases h) hc
  | raw => intro x y _ _ _; exact ⟨_, rfl⟩
  | map =>
      intro x y _ hy hc
      obtain ⟨R, hR⟩ : ∃ R, merge (Ty.map.encode x) (Ty.map.encode y) = .obj R := by
        cases y
        case obj ms => exact merge_obj_eq_obj _ ms
        all_goals cases hc
      rw [hR]; exact ⟨_, rfl⟩
  | slice t _ =>
      intro x y _ hy hc
      exact replaced _ hd hy (fun _ h => by cases y <;> cases h) hc
  | ptr t ih =>
      intro x y hx hy hc
      have hne : (Ty.ptr t).encode y ≠ .null := by
        rintro e; rw [e] at hc; cases hc
      have hy0 : y ≠ .null := by rintro rfl; exact hne rfl
      rw [encode_ptr_of_ne_null t hy0] at hne hc ⊢
      rw [decode_ptr_of_ne_null t (merge_ne_null _ hne)]
      rw [typed_ptr_of_ne_null t hy0] at hy
      by_cases hx0 : x = .null
      · subst hx0
        rw [show (Ty.ptr t).encode .null = .null from rfl, merge_null_left, prune_of_clean _ hc]
        obtain ⟨w, hw, -⟩ := decode_encode t hd hy
        exact ⟨w, hw⟩
      · rw [encode_ptr_of_ne_null t hx0]
        rw [typed_ptr_of_ne_null t hx0] at hx
        exact ih hd hx hy hc
  | struct fs ih =>
      intro x y hx hy hc
      have hd' := (distinct_struct_iff fs).mp hd
      have hx' := ((typed_struct_iff fs x).mp hx).2
      have hy' := ((typed_struct_iff fs y).mp hy).2
      obtain ⟨M, hM⟩ := merge_obj_eq_obj ((Ty.struct fs).encode x) (encodeFields fs y)
      rw [show (Ty.struct fs).encode y = .obj (encodeFields fs y) from rfl, hM]
      apply decode_struct_of_fields
      intro f hf
      have hc' : Json.cleanMembers (encodeFields fs y) = true := ((Bool.and_eq_true _ _).mp hc).2
      rw [← hM, field_merge_obj _ _ (encodeFields_nodup hd'.1 y), lookup_encodeFields hd'.1 hf,
        field_encode_struct hd'.1 hf]
      by_cases hom : (f.2.1 && f.2.2.isEmpty (y.field f.1)) = true
      · rw [if_pos hom]
        exact decode_member _ (hd'.2 f hf) _ (hx' f hf)
      · rw [if_neg hom]
        dsimp only
        have hvc : (f.2.2.encode (y.field f.1)).clean = true :=
          clean_of_lookup hc' (by rw [lookup_encodeFields hd'.1 hf, if_neg hom])
        split
        · rw [merge_null_left, prune_of_clean _ hvc]
          obtain ⟨w, hw, -⟩ := decode_encode _ (hd'.2 f hf) (hy' f hf)
          exact ⟨w, hw⟩
        · exact ih f hf (hd'.2 f hf) (hx' f hf) (hy' f hf) hvc

theorem typed_setField {fs : List (String × Bool × Ty)} (hd : (fs.map (·.1)).Nodup)
    {f : String × Bool × Ty} (hf : f ∈ fs) {ms : List (String × Json)} {r : Json}
    (hv : (Ty.struct fs).typed (.obj ms) = true) (hr : f.2.2.typed r = true) :
    (Ty.struct fs).typed ((Json.obj ms).setField f.1 r) = true := by
  refine (typed_struct_iff fs _).mpr ⟨⟨_, rfl⟩, fun g hg => ?_⟩
  rw [Json.field_setField]
  split
  · rwa [List.inj_on_of_nodup_map hd hg hf ‹_›]
  · exact ((typed_struct_iff fs _).mp hv).2 g hg

theorem settle_setField {fs : List (String × Bool × Ty)} (hd : (Ty.struct fs).distinct = true)
    {f : String × Bool × Ty} (hf : f ∈ fs) {d j u r : Json} (hdt : (Ty.struct fs).typed d = true)
    (hc : ((Ty.struct fs).encode d).clean = true)
    (h : (Ty.struct fs).decode (merge j ((Ty.struct fs).encode d)) = some u)
    (hr : f.2.2.typed r = true) :
    ∃ w, (Ty.struct fs).decode (merge ((Ty.struct fs).encode (u.setField f.1 r))
        ((Ty.struct fs).encode d)) = some w ∧
      (Ty.struct fs).encode (w.setField f.1 r) = (Ty.struct fs).encode (u.setField f.1 r) := by
  have hd' := (distinct_struct_iff fs).mp hd
  obtain ⟨w₀, hw₀, hew₀⟩ := settle _ hd hdt hc h
  have hut := typed_of_decode _ hd h
  obtain ⟨-, us, -, rfl, -⟩ := decode_struct_eq_some h
  obtain ⟨w, hw⟩ := decode_merge_encode _ hd (typed_setField hd'.1 hf hut hr) hdt hc
  obtain ⟨-, ws, -, rfl, -⟩ := decode_struct_eq_some hw
  refine ⟨_, hw, congrArg Json.obj (encodeFields_congr fun g hg => ?_)⟩
  rw [Json.field_setField, Json.field_setField]
  by_cases hgf : g.1 = f.1
  · rw [if_pos hgf, if_pos hgf]; exact ⟨rfl, fun _ => rfl⟩
  rw [if_neg hgf, if_neg hgf]
  -- away from the overwritten field, the second merge reads what the first one settled
  have hmem : (merge ((Ty.struct fs).encode ((Json.obj us).setField f.1 r))
      ((Ty.struct fs).encode d)).field g.1 =
      (merge ((Ty.struct fs).encode (.obj us)) ((Ty.struct fs).encode d)).field g.1 := by
    rw [show (Ty.struct fs).encode d = .obj (encodeFields fs d) from rfl,
      field_merge_obj _ _ (encodeFields_nodup hd'.1 d),
          field_merge_obj _ _ (encodeFields_nodup hd'.1 d),
      field_encode_struct hd'.1 hg, field_encode_struct hd'.1 hg, Json.field_setField, if_neg hgf]
  have h₁ := field_decode_struct hd'.1 hw hg
  have h₂ := field_decode_struct hd'.1 hw₀ hg
  rw [hmem, h₂, Option.some.injEq] at h₁
  rw [← h₁]
  have hfe := congrArg (Json.field g.1) hew₀
  rw [field_encode_struct hd'.1 hg, field_encode_struct hd'.1 hg] at hfe
  exact encodeField_eq _ (typed_of_decode _ (hd'.2 g hg) h₂)
    (((typed_struct_iff fs _).mp hut).2 g hg) hfe

theorem decode_merge_replacing {fs : List (String × Bool × Ty)}
    (hd : (Ty.struct fs).distinct = true)
    {d x u : Json} (hdt : (Ty.struct fs).typed d = true)
        (hc : ((Ty.struct fs).encode d).clean = true)
    (hw : ∀ f ∈ fs, (f.2.1 && f.2.2.isEmpty (d.field f.1)) = false ∧
      ∀ ms, f.2.2.encode (d.field f.1) ≠ .obj ms)
    (h : (Ty.struct fs).decode (merge x ((Ty.struct fs).encode d)) = some u) :
    (Ty.struct fs).encode u = (Ty.struct fs).encode d := by
  have hd' := (distinct_struct_iff fs).mp hd
  have hc' : Json.cleanMembers (encodeFields fs d) = true := ((Bool.and_eq_true _ _).mp hc).2
  refine congrArg Json.obj (encodeFields_congr fun f hf => ?_)
  have hu := decode_merge_written hd'.1 hf (hw f hf).1 h
  have hvc : (f.2.2.encode (d.field f.1)).clean = true :=
    clean_of_lookup hc' (by rw [lookup_encodeFields hd'.1 hf, if_neg (by rw [(hw f hf).1]; decide)])
  rw [merge_of_not_obj _ (hw f hf).2 hvc] at hu
  have hdf := ((typed_struct_iff fs d).mp hdt).2 f hf
  obtain ⟨w, hw', hew⟩ := decode_encode _ (hd'.2 f hf) hdf
  rw [hw', Option.some.injEq] at hu
  rw [← hu, isEmpty_congr _ (typed_of_decode _ (hd'.2 f hf) hw') hdf hew]
  exact ⟨rfl, fun _ => hew⟩

theorem encode_setField_congr {fs : List (String × Bool × Ty)} (hd : (fs.map (·.1)).Nodup)
    {f : String × Bool × Ty} (hf : f ∈ fs) {a b r r' : Json}
    (ha : (Ty.struct fs).typed a = true) (hb : (Ty.struct fs).typed b = true)
    (hab : (Ty.struct fs).encode a = (Ty.struct fs).encode b)
    (hr : f.2.2.typed r = true) (hr' : f.2.2.typed r' = true)
        (hrr : f.2.2.encode r = f.2.2.encode r') :
    (Ty.struct fs).encode (a.setField f.1 r) = (Ty.struct fs).encode (b.setField f.1 r') := by
  obtain ⟨⟨as, rfl⟩, ha'⟩ := (typed_struct_iff fs a).mp ha
  obtain ⟨⟨bs, rfl⟩, hb'⟩ := (typed_struct_iff fs b).mp hb
  refine congrArg Json.obj (encodeFields_congr fun g hg => ?_)
  rw [Json.field_setField, Json.field_setField]
  by_cases hgf : g.1 = f.1
  · rw [if_pos hgf, if_pos hgf, List.inj_on_of_nodup_map hd hg hf hgf, isEmpty_congr _ hr hr' hrr]
    exact ⟨rfl, fun _ => hrr⟩
  · rw [if_neg hgf, if_neg hgf]
    have hfe := congrArg (Json.field g.1) hab
    rw [field_encode_struct hd hg, field_encode_struct hd hg] at hfe
    exact encodeField_eq _ (ha' g hg) (hb' g hg) hfe

theorem decode_struct_ne_null {fs : List (String × Bool × Ty)} {j w : Json}
    (h : (Ty.struct fs).decode j = some w) : w ≠ .null := by
  obtain ⟨-, ys, -, rfl, -⟩ := decode_struct_eq_some h
  exact fun h => by cases h

theorem encode_of_decode_encode (t : Ty) (hd : t.distinct = true) {v w : Json}
    (hv : t.typed v = true) (h : t.decode (t.encode v) = some w) : t.encode w = t.encode v := by
  obtain ⟨w', hw', hew'⟩ := decode_encode t hd hv
  rw [hw', Option.some.injEq] at h
  exact h ▸ hew'

theorem encode_ptr_field_congr {fs : List (String × Bool × Ty)} (hd : (fs.map (·.1)).Nodup)
    {n : String} {om : Bool} {t : Ty} (hf : (n, om, .ptr t) ∈ fs) {x y : Json}
    (h : (Ty.struct fs).encode x = (Ty.struct fs).encode y) :
    (Ty.ptr t).encode (x.field n) = (Ty.ptr t).encode (y.field n) := by
  rw [← field_encode_ptr hd hf, h, field_encode_ptr hd hf]

theorem mergeObjects_of_decode_encode {fs : List (String × Bool × Ty)}
    (hd : (Ty.struct fs).distinct = true) {d e : Json} (hdt : (Ty.struct fs).typed d = true)
    (hc : ((Ty.struct fs).encode d).clean = true)
    (he : (Ty.struct fs).decode ((Ty.struct fs).encode d) = some e) :
    mergeObjects (.struct fs) e d = .ok e := by
  rw [mergeObjects_struct_eq_ok, encode_of_decode_encode _ hd hdt he, merge_self_of_clean hc, he]

theorem mergeObjects_settle {fs : List (String × Bool × Ty)} (hd : (Ty.struct fs).distinct = true)
    {d e u e' : Json} (hdt : (Ty.struct fs).typed d = true)
    (hc : ((Ty.struct fs).encode d).clean = true) (hm : mergeObjects (.struct fs) e d = .ok u)
    (he' : (Ty.struct fs).decode ((Ty.struct fs).encode u) = some e') :
    ∃ u', mergeObjects (.struct fs) e' d = .ok u' ∧ (Ty.struct fs).encode u' =
        (Ty.struct fs).encode u := by
  rw [mergeObjects_struct_eq_ok] at hm
  obtain ⟨w, hw, hew⟩ := settle _ hd hdt hc hm
  refine ⟨w, ?_, hew⟩
  rw [mergeObjects_struct_eq_ok, encode_of_decode_encode _ hd (typed_of_decode _ hd hm) he', hw]

theorem typed_field {fs : List (String × Bool × Ty)} {v : Json} (hv : (Ty.struct fs).typed v = true)
    {f : String × Bool × Ty} (hf : f ∈ fs) : f.2.2.typed (v.field f.1) = true :=
  ((typed_struct_iff fs v).mp hv).2 f hf

theorem deepDerivative_field_of_encode_eq {fs : List (String × Bool × Ty)}
    (hd : (Ty.struct fs).distinct = true) {n : String} {om : Bool} {t : Ty}
    (hf : (n, om, .ptr t) ∈ fs) (hm : t.mapFree = true) {x y : Json}
    (hx : (Ty.struct fs).typed x = true) (hy : (Ty.struct fs).typed y = true)
    (h : (Ty.struct fs).encode x = (Ty.struct fs).encode y) :
    (Ty.ptr t).deepDerivative (x.field n) (y.field n) = true := by
  have hd' := (distinct_struct_iff fs).mp hd
  exact deepDerivative_of_encode_eq (.ptr t) (hd'.2 _ hf) hm (typed_field hx hf) (typed_field hy hf)
    (encode_ptr_field_congr hd'.1 hf h)

theorem encode_setField_self (fs : List (String × Bool × Ty))
    (ms : List (String × Json)) (n : String) :
    (Ty.struct fs).encode ((Json.obj ms).setField n ((Json.obj ms).field n)) =
      (Ty.struct fs).encode (.obj ms) := by
  refine congrArg Json.obj (encodeFields_congr_of_field_eq fun f _ => ?_)
  rw [Json.field_setField]
  split
  · rename_i h; rw [h]
  · rfl

end Merge

end Ty

end StrimziTransport
