import StrimziTransport.MergeLaws
import StrimziTransport.Equality

/-!
Go values read through their types. `typed t v` says `v` is a value `json.Unmarshal`
can produce at `t`; struct types name each field once (`distinct`). The laws here are what
`MergeObjects` rests on: `json.Unmarshal` of a `json.Marshal` succeeds and gives back a
value with the same encoding, and merging a desired object's encoding into any document
and decoding gives a value that the same merge, done once more, leaves with the same
encoding. Two typed values with one encoding are told apart by neither `json.Marshal`
nor DeepDerivative's first argument.
-/

namespace StrimziTransport

section OptionMapM
variable {α β γ : Type} {f : α → Option β}

theorem List.mapM_option_cons (x : α) (xs : List α) :
    (x :: xs).mapM f = (f x).bind fun y => (xs.mapM f).bind fun ys => some (y :: ys) := by
  simp only [List.mapM_cons]; rfl

theorem List.mapM_option_mem {xs : List α} {ys : List β} (h : xs.mapM f = some ys) {y : β}
    (hy : y ∈ ys) : ∃ x ∈ xs, f x = some y := by
  induction xs generalizing ys with
  | nil => cases h; simp at hy
  | cons x xs ih =>
      rw [List.mapM_option_cons] at h
      obtain ⟨z, hz, h⟩ := Option.bind_eq_some.mp h
      obtain ⟨zs, hzs, h⟩ := Option.bind_eq_some.mp h
      cases h
      rcases List.mem_cons.mp hy with rfl | hy
      · exact ⟨x, List.mem_cons_self _ _, hz⟩
      · obtain ⟨x', hx', h'⟩ := ih hzs hy
        exact ⟨x', List.mem_cons_of_mem _ hx', h'⟩

theorem List.mapM_option_of_forall {xs : List α} {g : β → γ} {h : α → γ}
    (hx : ∀ x ∈ xs, ∃ y, f x = some y ∧ g y = h x) :
    ∃ ys, xs.mapM f = some ys ∧ ys.map g = xs.map h := by
  induction xs with
  | nil => exact ⟨[], rfl, rfl⟩
  | cons x xs ih =>
      obtain ⟨y, hy, hgy⟩ := hx x (List.mem_cons_self _ _)
      obtain ⟨ys, hys, hmap⟩ := ih fun x' hx' => hx x' (List.mem_cons_of_mem _ hx')
      refine ⟨y :: ys, ?_, by simp [hgy, hmap]⟩
      simp only [List.mapM_option_cons, hy, Option.some_bind, hys]

end OptionMapM

namespace Ty

mutual
theorem induction {motive : Ty → Prop} (bool : motive .bool) (int : motive .int)
    (string : motive .string) (raw : motive .raw) (map : motive .map)
    (ptr : ∀ t, motive t → motive (.ptr t)) (slice : ∀ t, motive t → motive (.slice t))
    (struct : ∀ fs : List (String × Bool × Ty), (∀ f ∈ fs, motive f.2.2) → motive (.struct fs)) :
    ∀ t, motive t
  | .bool => bool
  | .int => int
  | .string => string
  | .raw => raw
  | .map => map
  | .ptr t => ptr t (induction bool int string raw map ptr slice struct t)
  | .slice t => slice t (induction bool int string raw map ptr slice struct t)
  | .struct fs => struct fs (inductionFields bool int string raw map ptr slice struct fs)

theorem inductionFields {motive : Ty → Prop} (bool : motive .bool) (int : motive .int)
    (string : motive .string) (raw : motive .raw) (map : motive .map)
    (ptr : ∀ t, motive t → motive (.ptr t)) (slice : ∀ t, motive t → motive (.slice t))
    (struct : ∀ fs : List (String × Bool × Ty), (∀ f ∈ fs, motive f.2.2) → motive (.struct fs)) :
    ∀ fs : List (String × Bool × Ty), ∀ f ∈ fs, motive f.2.2
  | [], _, h => absurd h (List.not_mem_nil _)
  | (_, _, t) :: fs, f, h =>
      (List.mem_cons.mp h).elim (fun e => e ▸ induction bool int string raw map ptr slice struct t)
        (inductionFields bool int string raw map ptr slice struct fs f)
end

mutual
def distinct : Ty → Bool
  | .ptr t | .slice t => distinct t
  | .struct fs => decide (fs.map (·.1)).Nodup && distinctFields fs
  | _ => true

def distinctFields : List (String × Bool × Ty) → Bool
  | [] => true
  | (_, _, t) :: fs => distinct t && distinctFields fs
end

mutual
/-- No Go map inside: DeepDerivative is reflexive on such types. -/
def mapFree : Ty → Bool
  | .map => false
  | .ptr t | .slice t => mapFree t
  | .struct fs => mapFreeFields fs
  | _ => true

def mapFreeFields : List (String × Bool × Ty) → Bool
  | [] => true
  | (_, _, t) :: fs => mapFree t && mapFreeFields fs
end

mutual
/-- A value `json.Unmarshal` can produce at a type. -/
def typed : Ty → Json → Bool
  | .bool, .bool _ | .int, .num _ | .string, .str _ => true
  | .raw, _ => true
  | .map, .obj _ | .map, .null => true
  | .ptr _, .null => true
  | .ptr t, v => typed t v
  | .slice _, .null => true
  | .slice t, .arr xs => xs.all (typed t)
  | .struct fs, .obj ms => typedFields fs (.obj ms)
  | _, _ => false

def typedFields : List (String × Bool × Ty) → Json → Bool
  | [], _ => true
  | (name, _, t) :: fs, v => typed t (v.field name) && typedFields fs v
end

theorem typedFields_iff (fs : List (String × Bool × Ty)) (v : Json) :
    typedFields fs v = true ↔ ∀ f ∈ fs, f.2.2.typed (v.field f.1) = true := by
  induction fs with
  | nil => simp [typedFields]
  | cons f fs ih => obtain ⟨n, om, t⟩ := f; simp [typedFields, ih]

theorem typed_struct_iff (fs : List (String × Bool × Ty)) (v : Json) :
    (Ty.struct fs).typed v = true ↔
      (∃ ms, v = .obj ms) ∧ ∀ f ∈ fs, f.2.2.typed (v.field f.1) = true := by
  cases v
  case obj ms =>
    rw [← typedFields_iff]
    exact ⟨fun h => ⟨⟨ms, rfl⟩, h⟩, fun h => h.2⟩
  all_goals exact ⟨fun h => (by cases h), fun ⟨⟨_, h⟩, _⟩ => (by cases h)⟩

theorem distinct_struct_iff (fs : List (String × Bool × Ty)) :
    (Ty.struct fs).distinct = true ↔
      (fs.map (·.1)).Nodup ∧ ∀ f ∈ fs, f.2.2.distinct = true := by
  have : ∀ fs : List (String × Bool × Ty),
      distinctFields fs = true ↔ ∀ f ∈ fs, f.2.2.distinct = true := by
    intro fs
    induction fs with
    | nil => simp [distinctFields]
    | cons f fs ih => obtain ⟨n, om, t⟩ := f; simp [distinctFields, ih]
  show (decide _ && distinctFields fs) = true ↔ _
  rw [Bool.and_eq_true, decide_eq_true_iff, this]

section Pointers
variable (t : Ty) {v : Json} (hv : v ≠ .null)
include hv

theorem encode_ptr_of_ne_null : encode (.ptr t) v = encode t v := by
  cases v
  · exact absurd rfl hv
  all_goals rfl

theorem decode_ptr_of_ne_null : decode (.ptr t) v = decode t v := by
  cases v
  · exact absurd rfl hv
  all_goals rfl

theorem typed_ptr_of_ne_null : typed (.ptr t) v = typed t v := by
  cases v
  · exact absurd rfl hv
  all_goals rfl

theorem deepDerivative_ptr_of_ne_null (b : Json) :
    deepDerivative (.ptr t) v b = (b != .null && deepDerivative t v b) := by
  cases v
  · exact absurd rfl hv
  all_goals cases b <;> rfl

end Pointers

@[simp] theorem decode_null : ∀ t : Ty, t.decode .null = some t.zero
  | .bool | .int | .string | .raw | .map | .ptr _ | .slice _ | .struct _ => rfl

theorem decodeFields_cons (n : String) (om : Bool) (t : Ty) (fs : List (String × Bool × Ty))
    (ms : List (String × Json)) :
    decodeFields ((n, om, t) :: fs) ms =
      (t.decode ((Json.obj ms).field n)).bind fun x =>
        (decodeFields fs ms).bind fun rest => some ((n, x) :: rest) := by
  simp only [decodeFields]
  rw [obj_field]
  rcases ms.lookup n with _ | j
  · rw [Option.getD_none, decode_null]; rfl
  · rfl

theorem field_decodeFields {fs : List (String × Bool × Ty)} {ms ys : List (String × Json)}
    (hd : (fs.map (·.1)).Nodup) (h : decodeFields fs ms = some ys)
    {f : String × Bool × Ty} (hf : f ∈ fs) :
    f.2.2.decode ((Json.obj ms).field f.1) = some ((Json.obj ys).field f.1) := by
  induction fs generalizing ys with
  | nil => simp at hf
  | cons g fs ih =>
      obtain ⟨n, om, t⟩ := g
      simp only [List.map_cons, List.nodup_cons] at hd
      rw [decodeFields_cons] at h
      obtain ⟨x, hx, h⟩ := Option.bind_eq_some.mp h
      obtain ⟨rest, hrest, h⟩ := Option.bind_eq_some.mp h
      cases h
      rcases List.mem_cons.mp hf with rfl | hf
      · simpa using hx
      · have hne : f.1 ≠ n := fun e => hd.1 (e ▸ List.mem_map_of_mem _ hf)
        rw [Json.field_cons, if_neg hne]
        exact ih hd.2 hrest hf

theorem decode_struct_null (fs : List (String × Bool × Ty)) :
    decode (.struct fs) .null = decode (.struct fs) (.obj []) := by
  have : ∀ fs : List (String × Bool × Ty), decodeFields fs [] = some (zeroFields fs) := by
    intro fs
    induction fs with
    | nil => rfl
    | cons f fs ih =>
        obtain ⟨n, om, t⟩ := f
        rw [decodeFields_cons, ih, Json.field_nil, decode_null]
        rfl
  show some (Json.obj (zeroFields fs)) = (decodeFields fs []).map Json.obj
  rw [this]; rfl

theorem decode_struct_eq_some {fs : List (String × Bool × Ty)} {j w : Json}
    (h : decode (.struct fs) j = some w) :
    ∃ ms ys, decodeFields fs ms = some ys ∧ w = .obj ys ∧ ∀ n, j.field n =
        (Json.obj ms).field n := by
  cases j
  case obj ms =>
    change Option.map Json.obj (decodeFields fs ms) = some w at h
    obtain ⟨ys, hys, rfl⟩ := Option.map_eq_some'.mp h
    exact ⟨ms, ys, hys, rfl, fun _ => rfl⟩
  case null =>
    rw [decode_struct_null] at h
    change Option.map Json.obj (decodeFields fs []) = some w at h
    obtain ⟨ys, hys, rfl⟩ := Option.map_eq_some'.mp h
    exact ⟨[], ys, hys, rfl, fun _ => rfl⟩
  all_goals cases h

theorem field_decode_struct {fs : List (String × Bool × Ty)} {j w : Json}
    (hd : (fs.map (·.1)).Nodup) (h : decode (.struct fs) j = some w)
    {f : String × Bool × Ty} (hf : f ∈ fs) : f.2.2.decode (j.field f.1) = some (w.field f.1) := by
  obtain ⟨ms, ys, hys, rfl, hj⟩ := decode_struct_eq_some h
  rw [hj]
  exact field_decodeFields hd hys hf

theorem decode_struct_of_fields {fs : List (String × Bool × Ty)} {ms : List (String × Json)}
    (h : ∀ f ∈ fs, ∃ w, f.2.2.decode ((Json.obj ms).field f.1) = some w) :
    ∃ w, decode (.struct fs) (.obj ms) = some w := by
  suffices ∃ ys, decodeFields fs ms = some ys by
    obtain ⟨ys, hys⟩ := this
    refine ⟨.obj ys, ?_⟩
    show Option.map Json.obj (decodeFields fs ms) = _
    rw [hys]; rfl
  induction fs with
  | nil => exact ⟨[], rfl⟩
  | cons f fs ih =>
      obtain ⟨n, om, t⟩ := f
      obtain ⟨w, hw⟩ := h _ (List.mem_cons_self _ _)
      obtain ⟨ys, hys⟩ := ih fun g hg => h g (List.mem_cons_of_mem _ hg)
      refine ⟨(n, w) :: ys, ?_⟩
      rw [decodeFields_cons, show t.decode ((Json.obj ms).field n) =
          some w from hw, Option.some_bind,
        hys]
      rfl

theorem lookup_encodeFields_of_not_mem {fs : List (String × Bool × Ty)} {n : String}
    (hn : n ∉ fs.map (·.1)) (v : Json) : (encodeFields fs v).lookup n = none := by
  induction fs with
  | nil => rfl
  | cons f fs ih =>
      obtain ⟨m, om, t⟩ := f
      simp only [List.map_cons, List.mem_cons, not_or] at hn
      simp only [encodeFields]
      split
      · exact ih hn.2
      · rw [lookup_cons_eq_ite, if_neg hn.1, ih hn.2]

theorem lookup_encodeFields {fs : List (String × Bool × Ty)} (hd : (fs.map (·.1)).Nodup)
    {f : String × Bool × Ty} (hf : f ∈ fs) (v : Json) :
    (encodeFields fs v).lookup f.1 =
      if f.2.1 && f.2.2.isEmpty (v.field f.1) then none else some (f.2.2.encode (v.field f.1)) := by
  induction fs with
  | nil => simp at hf
  | cons g fs ih =>
      obtain ⟨m, om, t⟩ := g
      simp only [List.map_cons, List.nodup_cons] at hd
      simp only [encodeFields]
      rcases List.mem_cons.mp hf with rfl | hf
      · dsimp only
        split
        · exact lookup_encodeFields_of_not_mem hd.1 v
        · rw [lookup_cons_eq_ite, if_pos rfl]
      · have hne : f.1 ≠ m := fun e => hd.1 (e ▸ List.mem_map_of_mem _ hf)
        split
        · exact ih hd.2 hf
        · rw [lookup_cons_eq_ite, if_neg hne]; exact ih hd.2 hf

theorem field_encode_struct {fs : List (String × Bool × Ty)} (hd : (fs.map (·.1)).Nodup)
    {f : String × Bool × Ty} (hf : f ∈ fs) (v : Json) :
    (encode (.struct fs) v).field f.1 =
      if f.2.1 && f.2.2.isEmpty (v.field f.1) then .null else f.2.2.encode (v.field f.1) := by
  show (Json.obj (encodeFields fs v)).field f.1 = _
  rw [obj_field, lookup_encodeFields hd hf]
  split <;> rfl

theorem decode_eq_null (t : Ty) : ∀ {j : Json}, t.decode j = some .null → j = .null := by
  induction t using Ty.induction with
  | ptr t ih =>
      intro j h
      by_cases hj : j = .null
      · exact hj
      · rw [decode_ptr_of_ne_null t hj] at h; exact ih h
  | raw => intro j h; cases h; rfl
  | slice t _ =>
      intro j h
      cases j
      case arr xs =>
        change Option.map Json.arr (xs.mapM t.decode) = some .null at h
        obtain ⟨_, _, h⟩ := Option.map_eq_some'.mp h
        cases h
      all_goals first | rfl | cases h
  | struct fs _ =>
      intro j h
      cases j
      case obj ms =>
        change Option.map Json.obj (decodeFields fs ms) = some .null at h
        obtain ⟨_, _, h⟩ := Option.map_eq_some'.mp h
        cases h
      all_goals first | rfl | cases h
  | _ => intro j h; cases j <;> first | rfl | cases h

theorem typed_of_decode (t : Ty) (hd : t.distinct = true) :
    ∀ {j v : Json}, t.decode j = some v → t.typed v = true := by
  induction t using Ty.induction with
  | ptr t ih =>
      intro j v h
      by_cases hj : j = .null
      · subst hj; cases h; rfl
      · rw [decode_ptr_of_ne_null t hj] at h
        by_cases hv : v = .null
        · subst hv; rfl
        · rw [typed_ptr_of_ne_null t hv]; exact ih hd h
  | slice t ih =>
      intro j v h
      cases j
      case arr xs =>
        change Option.map Json.arr (xs.mapM t.decode) = some v at h
        obtain ⟨ws, hws, rfl⟩ := Option.map_eq_some'.mp h
        change ws.all t.typed = true
        rw [List.all_eq_true]
        intro w hw
        obtain ⟨x, -, hx⟩ := List.mapM_option_mem hws hw
        exact ih hd hx
      all_goals cases h <;> rfl
  | struct fs ih =>
      intro j v h
      have hd' := (distinct_struct_iff fs).mp hd
      obtain ⟨_, ys, -, rfl, -⟩ := decode_struct_eq_some h
      exact (typed_struct_iff fs _).mpr ⟨⟨ys, rfl⟩,
        fun f hf => ih f hf (hd'.2 f hf) (field_decode_struct hd'.1 h hf)⟩
  | _ => intro j v h; cases j <;> cases h <;> rfl

theorem encode_eq_null_iff (t : Ty) : ∀ {v : Json}, t.typed v = true →
    (t.encode v = .null ↔ v = .null) := by
  induction t using Ty.induction with
  | raw => intro v _; rfl
  | ptr t ih =>
      intro v hv
      by_cases h : v = .null
      · subst h; exact iff_of_true rfl rfl
      · rw [encode_ptr_of_ne_null t h, ih (by rwa [typed_ptr_of_ne_null t h] at hv)]
  | _ =>
      intro v hv
      cases v <;> first | exact Iff.rfl | cases hv | exact
          ⟨fun h => (by cases h), fun h => (by cases h)⟩

theorem isEmpty_congr (t : Ty) {x y : Json} (hx : t.typed x = true) (hy : t.typed y = true)
    (h : t.encode x = t.encode y) : t.isEmpty x = t.isEmpty y := by
  have hmap : ∀ z, isEmpty .map z = isEmpty .map (encode .map z) := by
    intro z; cases z <;> rfl
  have hslice : ∀ t z, isEmpty (.slice t) z = isEmpty (.slice t) (encode (.slice t) z) := by
    intro t z
    cases z
    case arr xs => cases xs <;> rfl
    all_goals rfl
  cases t
  case bool =>
    change Json.bool x.asBool = Json.bool y.asBool at h
    change (!x.asBool) = !y.asBool
    rw [Json.bool.inj h]
  case int =>
    change Json.num x.asInt = Json.num y.asInt at h
    change (x.asInt == 0) = (y.asInt == 0)
    rw [Json.num.inj h]
  case string =>
    change Json.str x.asStr = Json.str y.asStr at h
    change (x.asStr == "") = (y.asStr == "")
    rw [Json.str.inj h]
  case raw | struct => rfl
  case map => rw [hmap, h, ← hmap]
  case slice t => rw [hslice, h, ← hslice]
  case ptr t =>
    have := (encode_eq_null_iff (.ptr t) hx).symm.trans (h ▸ encode_eq_null_iff (.ptr t) hy)
    simp only [isEmpty]
    by_cases hn : x = .null
    · simp [hn, this.mp hn]
    · have : y ≠ .null := fun e => hn (this.mpr e)
      simp [hn, this]

theorem isEmpty_zero (t : Ty) {x : Json} (h : t.isEmpty x = true) : t.isEmpty t.zero = true := by
  cases t <;> first | rfl | cases h

theorem encodeFields_congr {fs : List (String × Bool × Ty)} {a b : Json}
    (h : ∀ f ∈ fs, (f.2.1 && f.2.2.isEmpty (a.field f.1)) = (f.2.1 && f.2.2.isEmpty (b.field f.1)) ∧
      ((f.2.1 && f.2.2.isEmpty (a.field f.1)) = false →
        f.2.2.encode (a.field f.1) = f.2.2.encode (b.field f.1))) :
    encodeFields fs a = encodeFields fs b := by
  induction fs with
  | nil => rfl
  | cons f fs ih =>
      obtain ⟨n, om, t⟩ := f
      obtain ⟨hom, henc⟩ := h _ (List.mem_cons_self _ _)
      have ih := ih fun g hg => h g (List.mem_cons_of_mem _ hg)
      simp only [encodeFields, ← hom, ih]
      split
      · rfl
      · rw [henc (Bool.eq_false_iff.mpr ‹_›)]

theorem decode_encode (t : Ty) (hd : t.distinct = true) :
    ∀ {v : Json}, t.typed v = true → ∃ w, t.decode (t.encode v) = some w ∧
        t.encode w = t.encode v := by
  induction t using Ty.induction with
  | ptr t ih =>
      intro v hv
      by_cases h : v = .null
      · subst h; exact ⟨.null, rfl, rfl⟩
      · have hv' : t.typed v = true := by rwa [typed_ptr_of_ne_null t h] at hv
        have hne : t.encode v ≠ .null := fun e => h ((encode_eq_null_iff t hv').mp e)
        obtain ⟨w, hw, hew⟩ := ih hd hv'
        have hw0 : w ≠ .null := fun e => hne (decode_eq_null t (e ▸ hw))
        refine ⟨w, ?_, ?_⟩
        · rw [encode_ptr_of_ne_null t h, decode_ptr_of_ne_null t hne, hw]
        · rw [encode_ptr_of_ne_null t h, encode_ptr_of_ne_null t hw0, hew]
  | slice t ih =>
      intro v hv
      cases v
      case arr xs =>
        change xs.all t.typed = true at hv
        rw [List.all_eq_true] at hv
        obtain ⟨ws, hws, hmap⟩ := @List.mapM_option_of_forall _ _ _ (decode t)
          (xs.map (encode t)) (encode t) id (by
            intro x hx
            obtain ⟨x₀, hx₀, rfl⟩ := List.mem_map.mp hx
            exact ih hd (hv x₀ hx₀))
        refine ⟨.arr ws, ?_, ?_⟩
        · show ((xs.map (encode t)).mapM (decode t)).map Json.arr = _
          rw [hws]; rfl
        · show Json.arr (ws.map (encode t)) = Json.arr (xs.map (encode t))
          rw [hmap, List.map_id]
      case null => exact ⟨.null, rfl, rfl⟩
      all_goals cases hv
  | struct fs ih =>
      intro v hv
      have hd' := (distinct_struct_iff fs).mp hd
      have hv' := ((typed_struct_iff fs v).mp hv).2
      have hfield := fun {f : String × Bool × Ty} (hf : f ∈ fs) => field_encode_struct hd'.1 hf v
      obtain ⟨w, hw⟩ : ∃ w, decode (.struct fs) (encode (.struct fs) v) = some w := by
        apply decode_struct_of_fields
        intro f hf
        rw [← show encode (.struct fs) v = .obj (encodeFields fs v) from rfl, hfield hf]
        split
        · exact ⟨_, decode_null _⟩
        · obtain ⟨w, hw, -⟩ := ih f hf (hd'.2 f hf) (hv' f hf)
          exact ⟨w, hw⟩
      refine ⟨w, hw, congrArg Json.obj (encodeFields_congr fun f hf => ?_)⟩
      have hwf := field_decode_struct hd'.1 hw hf
      rw [hfield hf] at hwf
      by_cases hom : (f.2.1 && f.2.2.isEmpty (v.field f.1)) = true
      · rw [if_pos hom, decode_null, Option.some.injEq] at hwf
        simp only [Bool.and_eq_true] at hom
        rw [← hwf, isEmpty_zero f.2.2 hom.2, hom.1, hom.2]
        simp
      · rw [if_neg hom] at hwf
        obtain ⟨w', hw', hew'⟩ := ih f hf (hd'.2 f hf) (hv' f hf)
        rw [hw', Option.some.injEq] at hwf
        subst hwf
        have hte := typed_of_decode f.2.2 (hd'.2 f hf) hw'
        rw [isEmpty_congr f.2.2 hte (hv' f hf) hew']
        exact ⟨rfl, fun _ => hew'⟩
  | _ => intro v _; cases v <;> exact ⟨_, rfl, rfl⟩

theorem merge_obj_eq_obj (x : Json) (ps : List (String × Json)) :
    ∃ ms, merge x (.obj ps) = .obj ms := by
  cases x
  case obj doc => exact ⟨_, rfl⟩
  all_goals exact ⟨_, rfl⟩

theorem clean_of_lookup {ps : List (String × Json)} (h : Json.cleanMembers ps = true)
    {k : String} {v : Json} (hv : ps.lookup k = some v) : v.clean = true := by
  obtain ⟨l₁, l₂, rfl, -⟩ := List.lookup_eq_some_iff.mp hv
  exact clean_of_mem h (List.mem_append_right _ (List.mem_cons_self _ _))

theorem isEmpty_decode_merge (t : Ty) (hd : t.distinct = true) {x e y : Json}
    (hx : t.typed x = true) (hne : t.isEmpty x = false) (hc : (t.encode x).clean = true)
    (h : t.decode (merge e (t.encode x)) = some y) : t.isEmpty y = false := by
  have replaced : (∀ ms, t.encode x ≠ .obj ms) → t.isEmpty y = false := by
    intro hno
    rw [merge_of_not_obj e hno hc] at h
    obtain ⟨w, hw, hew⟩ := decode_encode t hd hx
    rw [hw, Option.some.injEq] at h
    subst h
    rw [isEmpty_congr t (typed_of_decode t hd hw) hx hew, hne]
  cases t
  case bool | int | string => exact replaced fun _ h => by cases h
  case raw | struct => rfl
  case slice t =>
    exact replaced fun _ h => by cases x <;> cases h
  case ptr t =>
    have hx0 : x ≠ .null := by rintro rfl; cases hne
    have hp0 : (Ty.ptr t).encode x ≠ .null := by
      rw [Ne, encode_eq_null_iff _ hx]; exact hx0
    have hm := merge_ne_null e hp0
    rw [decode_ptr_of_ne_null t hm] at h
    exact beq_eq_false_iff_ne.mpr fun e => hm (decode_eq_null t (e ▸ h))
  case map =>
    cases x
    case obj ms =>
      obtain ⟨⟨k, v⟩, rest, rfl⟩ : ∃ m rest, ms = m :: rest := by
        cases ms
        · cases hne
        · exact ⟨_, _, rfl⟩
      obtain ⟨hnd, hcm⟩ := (Bool.and_eq_true _ _).mp hc
      obtain ⟨R, hR⟩ := merge_obj_eq_obj e ((k, v) :: rest)
      have hvc := clean_of_mem hcm (List.mem_cons_self (k, v) rest)
      have hv : v ≠ .null := by rintro rfl; cases hvc
      have hk := field_merge_obj e ((k, v) :: rest) (of_decide_eq_true hnd) k
      rw [hR, lookup_cons_eq_ite, if_pos rfl] at hk
      change Ty.map.decode (merge e (.obj ((k, v) :: rest))) = some y at h
      rw [hR] at h
      cases h
      cases R with
      | nil => exact absurd hk.symm (merge_ne_null _ hv)
      | cons _ _ => rfl
    all_goals cases hne

theorem settle (t : Ty) (hd : t.distinct = true) :
    ∀ {d j u : Json}, t.typed d = true → (t.encode d).clean = true →
      t.decode (merge j (t.encode d)) = some u →
      ∃ w, t.decode (merge (t.encode u) (t.encode d)) = some w ∧ t.encode w = t.encode u := by
  have replaced : ∀ (t : Ty) {d j u : Json}, (∀ ms, t.encode d ≠ .obj ms) →
      (t.encode d).clean = true → t.decode (merge j (t.encode d)) = some u →
      ∃ w, t.decode (merge (t.encode u) (t.encode d)) = some w ∧ t.encode w = t.encode u := by
    intro t d j u hno hc h
    rw [merge_of_not_obj _ hno hc] at h ⊢
    exact ⟨u, h, rfl⟩
  have idem : ∀ (t : Ty) {d j u : Json}, (∀ v, t.encode v = v) → (t.encode d).clean = true →
      t.decode (merge j (t.encode d)) = some u → (∀ v, t.decode v = some v ∨ t.decode v = none) →
      ∃ w, t.decode (merge (t.encode u) (t.encode d)) = some w ∧ t.encode w = t.encode u := by
    intro t d j u hid hc h hdec
    rcases hdec (merge j (t.encode d)) with hm | hm
    · rw [hm, Option.some.injEq] at h
      subst h
      refine ⟨merge j (t.encode d), ?_, rfl⟩
      rw [hid, merge_merge_of_clean _ hc, hm]
    · rw [hm] at h; cases h
  induction t using Ty.induction with
  | bool | int | string => intro d j u _ hc h; exact replaced _ (fun _ h => by cases h) hc h
  | raw => intro d j u _ hc h; exact idem .raw (fun _ => rfl) hc h (fun _ => .inl rfl)
  | map =>
      intro d j u hdt hc h
      cases d
      case obj ms =>
        obtain ⟨R, hR⟩ := merge_obj_eq_obj j ms
        change Ty.map.decode (merge j (.obj ms)) = some u at h
        rw [hR] at h
        cases h
        refine ⟨.obj R, ?_, rfl⟩
        change (Json.obj ms).clean = true at hc
        change Ty.map.decode (merge (.obj R) (.obj ms)) = _
        rw [← hR, merge_merge_of_clean _ hc, hR]; rfl
      all_goals cases hc
  | slice t _ =>
      intro d j u hdt hc h
      exact replaced _ (fun _ h => by cases d <;> cases h) hc h
  | ptr t ih =>
      intro d j u hdt hc h
      have hp0 : (Ty.ptr t).encode d ≠ .null := by rintro e; rw [e] at hc; cases hc
      have hd0 : d ≠ .null := by rintro rfl; exact hp0 rfl
      rw [encode_ptr_of_ne_null t hd0] at hp0 hc h ⊢
      have hm := merge_ne_null j hp0
      rw [decode_ptr_of_ne_null t hm] at h
      have hu0 : u ≠ .null := fun e => hm (decode_eq_null t (e ▸ h))
      have hdt' : t.typed d = true := by rwa [typed_ptr_of_ne_null t hd0] at hdt
      obtain ⟨w, hw, hew⟩ := ih hd hdt' hc h
      have hw0 : w ≠ .null := fun e => (merge_ne_null _ hp0) (decode_eq_null t (e ▸ hw))
      refine ⟨w, ?_, ?_⟩
      · rw [encode_ptr_of_ne_null t hu0, decode_ptr_of_ne_null t (merge_ne_null _ hp0), hw]
      · rw [encode_ptr_of_ne_null t hu0, encode_ptr_of_ne_null t hw0, hew]
  | struct fs ih =>
      intro d j u hdt hc h
      have hd' := (distinct_struct_iff fs).mp hd
      have hdt' := ((typed_struct_iff fs d).mp hdt).2
      have hc' : ((encodeFields fs d).map Prod.fst).Nodup ∧
          Json.cleanMembers (encodeFields fs d) = true := by
        have hc := (Bool.and_eq_true _ _).mp hc
        exact ⟨of_decide_eq_true hc.1, hc.2⟩
      have hut := typed_of_decode _ hd h
      have hu' := ((typed_struct_iff fs u).mp hut).2
      obtain ⟨M, hM⟩ := merge_obj_eq_obj (encode (.struct fs) u) (encodeFields fs d)
      -- each field of the second merge decodes, to a value that encodes as `u`'s field
      have key : ∀ f ∈ fs, ∃ w, f.2.2.decode ((Json.obj M).field f.1) = some w ∧
          (f.2.1 && f.2.2.isEmpty w) = (f.2.1 && f.2.2.isEmpty (u.field f.1)) ∧
          ((f.2.1 && f.2.2.isEmpty w) = false → f.2.2.encode w = f.2.2.encode (u.field f.1)) := by
        intro f hf
        have hdist := hd'.2 f hf
        have huf := field_decode_struct hd'.1 h hf
        rw [show encode (.struct fs) d = .obj (encodeFields fs d) from rfl,
          field_merge_obj _ _ hc'.1, lookup_encodeFields hd'.1 hf] at huf
        have h2 := field_merge_obj (encode (.struct fs) u) (encodeFields fs d) hc'.1 f.1
        rw [hM, lookup_encodeFields hd'.1 hf, field_encode_struct hd'.1 hf] at h2
        rw [h2]
        -- a field the second encoding keeps: the round trip, or the induction hypothesis
        have kept : ∀ w, f.2.2.decode (f.2.2.encode (u.field f.1)) = some w ∨
            f.2.2.decode (merge (f.2.2.encode (u.field f.1)) (f.2.2.encode (d.field f.1))) =
                some w →
            f.2.2.encode w = f.2.2.encode (u.field f.1) →
            (f.2.1 && f.2.2.isEmpty w) = (f.2.1 && f.2.2.isEmpty (u.field f.1)) ∧
            ((f.2.1 && f.2.2.isEmpty w) = false →
              f.2.2.encode w = f.2.2.encode (u.field f.1)) := by
          intro w hw hew
          have hwt : f.2.2.typed w = true := by
            rcases hw with hw | hw <;> exact typed_of_decode _ hdist hw
          rw [isEmpty_congr _ hwt (hu' f hf) hew]
          exact ⟨rfl, fun _ => hew⟩
        by_cases hom : (f.2.1 && f.2.2.isEmpty (d.field f.1)) = true
        · rw [if_pos hom] at huf ⊢
          dsimp only
          by_cases hou : (f.2.1 && f.2.2.isEmpty (u.field f.1)) = true
          · rw [if_pos hou, decode_null]
            refine ⟨_, rfl, ?_, ?_⟩
            · simp only [Bool.and_eq_true] at hou
              rw [isEmpty_zero _ hou.2, hou.2]
            · simp only [Bool.and_eq_true] at hou
              rw [isEmpty_zero _ hou.2, hou.1]; simp
          · rw [if_neg hou]
            obtain ⟨w, hw, hew⟩ := decode_encode _ hdist (hu' f hf)
            exact ⟨w, hw, kept w (.inl hw) hew⟩
        · rw [if_neg hom] at huf ⊢
          dsimp only at huf ⊢
          have hvc : (f.2.2.encode (d.field f.1)).clean = true :=
            clean_of_lookup hc'.2 (by rw [lookup_encodeFields hd'.1 hf, if_neg hom])
          by_cases hou : (f.2.1 && f.2.2.isEmpty (u.field f.1)) = true
          · exfalso
            simp only [Bool.and_eq_true, not_and, Bool.not_eq_true] at hom hou
            have := isEmpty_decode_merge _ hdist (hdt' f hf) (hom hou.1) hvc huf
            rw [hou.2] at this; cases this
          · rw [if_neg hou]
            obtain ⟨w, hw, hew⟩ := ih f hf hdist (hdt' f hf) hvc huf
            exact ⟨w, hw, kept w (.inr hw) hew⟩
      obtain ⟨w, hw⟩ := decode_struct_of_fields fun f hf => (key f hf).imp fun _ h => h.1
      refine ⟨w, by
          rw [show (Ty.struct fs).encode d = .obj (encodeFields fs d) from rfl, hM]; exact hw,
        congrArg Json.obj (encodeFields_congr fun f hf => ?_)⟩
      obtain ⟨w', hw', hc1, hc2⟩ := key f hf
      have := field_decode_struct hd'.1 hw hf
      rw [hw', Option.some.injEq] at this
      rw [← this]
      exact ⟨hc1, hc2⟩

section DeepDerivative

theorem deepDerivativeFields_iff (fs : List (String × Bool × Ty)) (a b : Json) :
    deepDerivativeFields fs a b = true ↔
      ∀ f ∈ fs, f.2.2.deepDerivative (a.field f.1) (b.field f.1) = true := by
  induction fs with
  | nil => exact iff_of_true rfl (by simp)
  | cons f fs ih =>
      obtain ⟨n, om, t⟩ := f
      show (deepDerivative t (a.field n) (b.field n) && deepDerivativeFields fs a b) = true ↔ _
      rw [Bool.and_eq_true, ih, List.forall_mem_cons]

theorem deepDerivativeFields_congr {fs : List (String × Bool × Ty)} {a a' b : Json}
    (h : ∀ f ∈ fs, f.2.2.deepDerivative (a.field f.1) (b.field f.1) =
      f.2.2.deepDerivative (a'.field f.1) (b.field f.1)) :
    deepDerivativeFields fs a b = deepDerivativeFields fs a' b := by
  induction fs with
  | nil => rfl
  | cons f fs ih =>
      obtain ⟨n, om, t⟩ := f
      show (deepDerivative t (a.field n) (b.field n) && deepDerivativeFields fs a b) =
        (deepDerivative t (a'.field n) (b.field n) && deepDerivativeFields fs a' b)
      rw [h _ (List.mem_cons_self _ _), ih fun g hg => h g (List.mem_cons_of_mem _ hg)]

theorem mapFree_struct_iff (fs : List (String × Bool × Ty)) :
    (Ty.struct fs).mapFree = true ↔ ∀ f ∈ fs, f.2.2.mapFree = true := by
  show mapFreeFields fs = true ↔ _
  induction fs with
  | nil => exact iff_of_true rfl (by simp)
  | cons f fs ih =>
      obtain ⟨n, om, t⟩ := f
      show (mapFree t && mapFreeFields fs) = true ↔ _
      rw [Bool.and_eq_true, ih, List.forall_mem_cons]

theorem zip_self_all (p : Json → Json → Bool) (hp : ∀ x, p x x = true) (xs : List Json) :
    (xs.zip xs).all (fun q => p q.1 q.2) = true := by
  induction xs with
  | nil => rfl
  | cons x xs ih => simp [hp x, ih]

theorem deepDerivative_refl (t : Ty) (hm : t.mapFree = true) : ∀ x,
    t.deepDerivative x x = true := by
  induction t using Ty.induction with
  | bool => intro x; exact beq_self_eq_true _
  | int => intro x; exact beq_self_eq_true _
  | string => intro x; show (x.asStr == "" || x.asStr == x.asStr) = true; simp
  | raw => intro x; show (x == .null || x == x) = true; simp
  | map => cases hm
  | ptr t ih =>
      intro x
      by_cases hx : x = .null
      · subst hx; rfl
      · rw [deepDerivative_ptr_of_ne_null t hx]; simp [hx, ih hm x]
  | slice t ih =>
      intro x
      cases x
      case arr xs =>
        show (xs.isEmpty || (xs.length ≤ xs.length &&
          (xs.zip xs).all fun p => t.deepDerivative p.1 p.2)) = true
        rw [zip_self_all _ (ih hm) xs]; simp
      all_goals rfl
  | struct fs ih =>
      intro x
      have hm' := (mapFree_struct_iff fs).mp hm
      exact (deepDerivativeFields_iff fs x x).mpr fun f hf => ih f hf (hm' f hf) _

theorem deepDerivative_of_isEmpty (t : Ty) {e e' : Json} (he : t.typed e = true)
    (he0 : t.isEmpty e = true) (he' : t.typed e' = true) (he0' : t.isEmpty e' = true) (y : Json) :
    t.deepDerivative e y = t.deepDerivative e' y := by
  cases t
  case bool =>
    change (!e.asBool) = true at he0
    change (!e'.asBool) = true at he0'
    change (e.asBool == y.asBool) = (e'.asBool == y.asBool)
    simp only [Bool.not_eq_true'] at he0 he0'
    rw [he0, he0']
  case int =>
    change (e.asInt == 0) = true at he0
    change (e'.asInt == 0) = true at he0'
    change (e.asInt == y.asInt) = (e'.asInt == y.asInt)
    rw [beq_iff_eq.mp he0, beq_iff_eq.mp he0']
  case string =>
    change (e.asStr == "") = true at he0
    change (e'.asStr == "") = true at he0'
    change (e.asStr == "" || _) = (e'.asStr == "" || _)
    rw [he0, he0']; rfl
  case raw | struct => cases he0
  case ptr t =>
    change (e == .null) = true at he0
    change (e' == .null) = true at he0'
    rw [beq_iff_eq.mp he0, beq_iff_eq.mp he0']
  case map =>
    have : ∀ z, Ty.map.typed z = true → Ty.map.isEmpty z = true → z.derive y = true := by
      intro z hz hz0
      cases z
      case obj ms =>
        change ms.isEmpty = true at hz0
        rw [List.isEmpty_iff.mp hz0]
        cases y <;> rfl
      case null => rfl
      all_goals cases hz
    exact (this e he he0).trans (this e' he' he0').symm
  case slice t =>
    have : ∀ z, (Ty.slice t).typed z = true → (Ty.slice t).isEmpty z = true →
        (Ty.slice t).deepDerivative z y = true := by
      intro z hz hz0
      cases z
      case arr xs =>
        change xs.isEmpty = true at hz0
        rw [List.isEmpty_iff.mp hz0]
        cases y <;> rfl
      case null => cases y <;> rfl
      all_goals cases hz
    exact (this e he he0).trans (this e' he' he0').symm

theorem isEmpty_null_of_isEmpty (t : Ty) {x : Json} (h : t.isEmpty x = true)
    (_ : t.typed .null = true) : t.isEmpty .null = true := by
  cases t <;> first | rfl | cases h

theorem encode_map_of_typed {z : Json} (hz : Ty.map.typed z = true) : Ty.map.encode z = z := by
  cases z <;> first | rfl | cases hz

theorem deepDerivative_congr_left (t : Ty) (hd : t.distinct = true) :
    ∀ {x x' : Json}, t.typed x = true → t.typed x' = true → t.encode x = t.encode x' →
      ∀ y, t.deepDerivative x y = t.deepDerivative x' y := by
  induction t using Ty.induction with
  | bool =>
      intro x x' _ _ h y
      change Json.bool x.asBool = Json.bool x'.asBool at h
      change (x.asBool == y.asBool) = (x'.asBool == y.asBool)
      rw [Json.bool.inj h]
  | int =>
      intro x x' _ _ h y
      change Json.num x.asInt = Json.num x'.asInt at h
      change (x.asInt == y.asInt) = (x'.asInt == y.asInt)
      rw [Json.num.inj h]
  | string =>
      intro x x' _ _ h y
      change Json.str x.asStr = Json.str x'.asStr at h
      change (x.asStr == "" || x.asStr == y.asStr) = (x'.asStr == "" || x'.asStr == y.asStr)
      rw [Json.str.inj h]
  | raw => intro x x' _ _ h y; cases h; rfl
  | map =>
      intro x x' hx hx' h y
      rw [encode_map_of_typed hx, encode_map_of_typed hx'] at h
      subst h; rfl
  | ptr t ih =>
      intro x x' hx hx' h y
      have hn := (encode_eq_null_iff _ hx).symm.trans (h ▸ encode_eq_null_iff _ hx')
      by_cases h0 : x = .null
      · rw [h0, hn.mp h0]
      · have h0' : x' ≠ .null := fun e => h0 (hn.mpr e)
        rw [encode_ptr_of_ne_null t h0, encode_ptr_of_ne_null t h0'] at h
        rw [typed_ptr_of_ne_null t h0] at hx
        rw [typed_ptr_of_ne_null t h0'] at hx'
        rw [deepDerivative_ptr_of_ne_null t h0, deepDerivative_ptr_of_ne_null t h0',
          ih hd hx hx' h y]
  | slice t ih =>
      intro x x' hx hx' h y
      cases x
      case null =>
        rw [(encode_eq_null_iff _ hx').mp h.symm]
      case arr xs =>
        cases x'
        case arr xs' =>
          change xs.all t.typed = true at hx
          change xs'.all t.typed = true at hx'
          rw [List.all_eq_true] at hx hx'
          change Json.arr (xs.map t.encode) = Json.arr (xs'.map t.encode) at h
          have hm := Json.arr.inj h
          have hl : xs.length = xs'.length := by
            rw [← List.length_map xs t.encode, hm, List.length_map]
          have he : xs.isEmpty = xs'.isEmpty := by
            rw [Bool.eq_iff_iff, List.isEmpty_iff, List.isEmpty_iff, ← List.length_eq_zero,
              ← List.length_eq_zero, hl]
          have hz : ∀ ys : List Json, (xs.zip ys).all (fun p => t.deepDerivative p.1 p.2) =
              (xs'.zip ys).all (fun p => t.deepDerivative p.1 p.2) := by
            clear h hl he
            induction xs generalizing xs' with
            | nil => cases xs' <;> simp_all
            | cons a as iha =>
                cases xs' with
                | nil => simp at hm
                | cons a' as' =>
                    simp only [List.map_cons, List.cons.injEq] at hm
                    intro ys
                    cases ys with
                    | nil => rfl
                    | cons b bs =>
                        simp only [List.zip_cons_cons, List.all_cons]
                        rw [ih hd (hx a (List.mem_cons_self _ _)) (hx' a' (List.mem_cons_self _ _))
                          hm.1 b, iha as' (fun z hz => hx z (List.mem_cons_of_mem _ hz))
                          (fun z hz => hx' z (List.mem_cons_of_mem _ hz)) hm.2 bs]
          cases y
          case arr ys =>
            show (xs.isEmpty || (xs.length ≤ ys.length && _)) =
              (xs'.isEmpty || (xs'.length ≤ ys.length && _))
            rw [hz ys, hl, he]
          all_goals exact he
        case null => cases h
        all_goals cases hx'
      all_goals cases hx
  | struct fs ih =>
      intro x x' hx hx' h y
      have hd' := (distinct_struct_iff fs).mp hd
      have ht := ((typed_struct_iff fs x).mp hx).2
      have ht' := ((typed_struct_iff fs x').mp hx').2
      refine deepDerivativeFields_congr fun f hf => ?_
      have hfe := congrArg (Json.field f.1) h
      rw [field_encode_struct hd'.1 hf, field_encode_struct hd'.1 hf] at hfe
      by_cases ha : (f.2.1 && f.2.2.isEmpty (x.field f.1)) = true <;>
        by_cases hb : (f.2.1 && f.2.2.isEmpty (x'.field f.1)) = true
      · simp only [Bool.and_eq_true] at ha hb
        exact deepDerivative_of_isEmpty _ (ht f hf) ha.2 (ht' f hf) hb.2 _
      · rw [if_pos ha, if_neg hb] at hfe
        have h0 := (encode_eq_null_iff _ (ht' f hf)).mp hfe.symm
        simp only [Bool.and_eq_true] at ha
        have := isEmpty_null_of_isEmpty _ ha.2 (h0 ▸ ht' f hf)
        exact absurd (by rw [h0, ha.1, this]; rfl) hb
      · rw [if_neg ha, if_pos hb] at hfe
        have h0 := (encode_eq_null_iff _ (ht f hf)).mp hfe
        simp only [Bool.and_eq_true] at hb
        have := isEmpty_null_of_isEmpty _ hb.2 (h0 ▸ ht f hf)
        exact absurd (by rw [h0, hb.1, this]; rfl) ha
      · rw [if_neg ha, if_neg hb] at hfe
        exact ih f hf (hd'.2 f hf) (ht f hf) (ht' f hf) hfe _

theorem deepDerivative_of_encode_eq (t : Ty) (hd : t.distinct = true) (hm : t.mapFree = true)
    {x x' : Json} (hx : t.typed x = true) (hx' : t.typed x' = true)
    (h : t.encode x = t.encode x') : t.deepDerivative x x' = true := by
  rw [deepDerivative_congr_left t hd hx hx' h]
  exact deepDerivative_refl t hm x'

end DeepDerivative

end Ty

end StrimziTransport
