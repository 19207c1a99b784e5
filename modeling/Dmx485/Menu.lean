import Dmx485.Enumeration

/-!
# The device menu

`dmx_print` fills a `umenu` in the patch, whose selection is sent back as `device $1`. The menu is
not part of the repository; it is a receiver of messages here, with a list of items, which it
empties on `clear`; on `insert` it puts a new item at the place given, or at the end if the menu is
shorter.

* `foldl_insertIdx`: what becomes of a list when items are inserted at one fixed place.
* `umenu`, `shown`: the receiver, and the menu after the messages of `print`.
* `shown_eq`: the menu that `print` leaves. Every item but the first is inserted at place 1, so
  those after the first stand in the order opposite to that of their indices.
* `deviceNumber_of_admits`, `chosen_deviceNumber`: an item chosen is stored by its place in the
  menu, modulo 256.
* `menu_matches_iff`: when the items are the devices in the order of their indices. Two devices
  always do (`two_devices_match`), three with different names do not (`third_device_before_second`).
-/

namespace Dmx485

open Interaction

/-! ## Insertion at a fixed place -/

section insertion

variable {α : Type}

/-- Insertion at a place of the list splits it there. -/
lemma insertIdx_of_le {p : ℕ} {l : List α} (hp : p ≤ l.length) (a : α) :
    l.insertIdx p a = l.take p ++ a :: l.drop p := by
  induction l generalizing p with
  | nil => simp [Nat.le_zero.mp hp]
  | cons b l ih =>
      cases p with
      | zero => simp
      | succ p => simp [ih (Nat.le_of_succ_le_succ hp)]

/-- Items inserted one after the other at a place that exists come out backwards. -/
lemma foldl_insertIdx {p : ℕ} {l : List α} (hp : p ≤ l.length) (as : List α) :
    as.foldl (fun l a => l.insertIdx (min p l.length) a) l =
      l.take p ++ as.reverse ++ l.drop p := by
  induction as generalizing l with
  | nil => simp
  | cons a as ih =>
      have hinsert : l.insertIdx (min p l.length) a = l.take p ++ a :: l.drop p := by
        rw [Nat.min_eq_left hp]
        exact insertIdx_of_le hp a
      have htake : (l.take p).length = p := by simp [hp]
      rw [List.foldl_cons, hinsert, ih (by simp; omega)]
      simp [htake]

end insertion

/-! ## The menu as a receiver -/

/-- What a message does to the items of a `umenu`: `clear` removes them all, `insert p name` puts
`name` at place `p`, or at the end if the menu is shorter. -/
def umenu (items : List String) : String × List Arg → List String
  | ("clear", _) => []
  | ("insert", [.long p, .sym name]) => items.insertIdx (min p.toNat items.length) name
  | _ => items

/-- The menu after `print`, if it was `before`. -/
def shown (f : Script Dm Reply) (x : Obj) (before : List String) : List String :=
  ((machine .host).after dmx_print f ⟨x, []⟩).messages.foldl umenu before

/-- The driver reports `n` devices with these names, each of which it looks up by its index and
stores in the 64 bytes it is given. -/
structure Lists (f : Script Dm Reply) (n : DWORD) (names : List String) : Prop where
  length : names.length = n.toNat
  count : ∀ k, (f k countQuery).status = FT_OK ∧ (f k countQuery).dword = some n
  name : ∀ k i d, names[i]? = some d →
    (f k (nameQuery i)).status = FT_OK ∧ (f k (nameQuery i)).name = some d
  short : ∀ d ∈ names, d.utf8ByteSize < 64

/-- The items of the menu are the devices. -/
structure MenuMatches (names : List String) (f g : Script Dm Reply) (x : Obj) : Prop where
  /-- Whatever was in the menu before `print`, it has as many items as there are devices, and item
  `i` is the name of device `i`. -/
  items : ∀ before, shown f x before = names
  /-- In any state, choosing item `i` and sending `device i` selects a device of the name shown. -/
  chosen : ∀ before, ∀ i < names.length, ∀ w,
    names[((machine .host).after (handle (.device [(i : Int)])) g w).obj.deviceNumber.toNat]? =
      (shown f x before)[i]?

/-! ## What `print` leaves in the menu -/

section print

variable {f : Script Dm Reply} {n : DWORD} {names : List String}

/-- If each lookup stores a name, the names found are those. -/
lemma lookedUp_eq (ds : List String) (i : ℕ)
    (hname : ∀ k j d, ds[j]? = some d → (f k (nameQuery (i + j))).name = some d) :
    lookedUp ds.length i f = ds := by
  induction ds generalizing i f with
  | nil => rfl
  | cons d ds ih =>
      have hhead : (f 1 (nameQuery i)).name = some d := hname 1 0 d rfl
      have htail : lookedUp ds.length (i + 1) f.rest.rest.rest.rest.rest = ds := by
        apply ih
        intro k j d' hd'
        rw [Nat.add_assoc, Nat.add_comm 1 j]
        exact hname (k + 5) (j + 1) d' hd'
      rw [List.length_cons, lookedUp, hhead, htail]
      rfl

/-- A list of inserts at place 1 leaves the first item, and after it the others backwards. -/
lemma foldl_umenu (before ds : List String) :
    (("clear", []) :: ds.map fun d => ("insert", [Arg.long 1, Arg.sym d])).foldl umenu before =
      ds.take 1 ++ ds.tail.reverse := by
  rw [List.foldl_cons, List.foldl_map]
  cases ds with
  | nil => rfl
  | cons d ds =>
      apply (foldl_insertIdx (p := 1) (l := [d]) (Nat.le_refl 1) ds).trans
      exact List.append_nil _

variable (hf : Lists f n names)

include hf

/-- A number of devices that is an `int` is read as it is. -/
lemma count_fits (hfits : n ≤ 0x7fffffff) : (f 0 countQuery).count.toInt = names.length := by
  obtain ⟨hok, hdword⟩ := hf.count 0
  rw [count_of_ok hok (by rw [hdword]; exact hfits), hdword, hf.length]
  rfl

/-- A number of devices that is no `int` is read as a negative one. -/
lemma count_wraps (hlarge : ¬n ≤ 0x7fffffff) : (f 0 countQuery).count.toInt < 0 := by
  obtain ⟨hok, hdword⟩ := hf.count 0
  have hlt := n.toNat_lt
  unfold Reply.count
  rw [if_neg (not_not_intro hok), hdword, Option.getD_some, toInt_toInt32, if_neg hlarge]
  omega

/-- **The menu that `print` leaves**: the first device, and after it the others backwards; nothing
if the number of devices is no `int`. -/
theorem shown_eq (x : Obj) (before : List String) :
    shown f x before = if n ≤ 0x7fffffff then names.take 1 ++ names.tail.reverse else [] := by
  unfold shown
  rw [print_messages, foldl_umenu]
  split_ifs with hfits
  · have hnames : lookedUp names.length 0 f.rest.rest.rest = names := by
      apply lookedUp_eq
      intro k i d hd
      rw [Nat.zero_add]
      exact (hf.name (k + 3) i d hd).2
    rw [count_fits hf hfits, Int.toNat_natCast, hnames]
  · rw [Int.toNat_of_nonpos (Int.le_of_lt (count_wraps hf hfits))]
    rfl

end print

/-! ## The item chosen -/

/-- An index that is admitted is stored modulo 256. -/
lemma deviceNumber_of_admits {dev : Int} {f : Script Dm Reply}
    (hadmits : (f 0 countQuery).admits dev) (w : World) :
    ((machine .host).after (handle (.device [dev])) f w).obj.deviceNumber = unsignedChar dev := by
  obtain ⟨g, w', hafter, -⟩ := device_run [dev] f w
  rw [hafter, if_pos (show (f 0 countQuery).admits (askedIndex [dev]) from hadmits)]
  rfl

section matching

variable {f g : Script Dm Reply} {n : DWORD} {names : List String}

/-- Choosing an item stores its index modulo 256. -/
lemma chosen_deviceNumber (hg : Lists g n names) (hfits : n ≤ 0x7fffffff) {i : ℕ}
    (hi : i < names.length) (w : World) :
    ((machine .host).after (handle (.device [(i : Int)])) g w).obj.deviceNumber.toNat =
      i % 256 := by
  obtain ⟨hok, hdword⟩ := hg.count 0
  have hlength := hg.length
  have hadmits : (g 0 countQuery).admits i := by
    refine (admits_iff hok ?_ (by rw [hdword]; exact hfits) i).mpr ?_
    · rw [hdword]
      exact UInt32.le_iff_toNat_le.mpr (show 1 ≤ n.toNat by omega)
    · rw [hdword, Option.getD_some]
      omega
  rw [deviceNumber_of_admits hadmits]
  unfold unsignedChar
  rw [UInt8.toNat_ofNat']
  omega

/-- **When the menu matches the devices**: there are not more than an `int` can count, those after
the first have the same names when they are read backwards, and an index has the same name as its
remainder modulo 256. -/
theorem menu_matches_iff (hf : Lists f n names) (hg : Lists g n names) (x : Obj) :
    MenuMatches names f g x ↔
      n ≤ 0x7fffffff ∧ names.tail.reverse = names.tail ∧
        ∀ i < names.length, names[i % 256]? = names[i]? := by
  have hsplit : names.take 1 ++ names.tail = names := by
    rw [← List.drop_one]
    exact List.take_append_drop 1 names
  constructor
  · intro hmatches
    have hshown := shown_eq hf x []
    rw [hmatches.items] at hshown
    have hfits : n ≤ 0x7fffffff := by
      by_contra hlarge
      rw [if_neg hlarge] at hshown
      have hzero : n.toNat = 0 := by
        rw [← hf.length, hshown]
        rfl
      exact hlarge (UInt32.le_iff_toNat_le.mpr (by rw [hzero]; exact Nat.zero_le _))
    refine ⟨hfits, ?_, fun i hi => ?_⟩
    · rw [if_pos hfits] at hshown
      exact List.append_cancel_left (hshown.symm.trans hsplit.symm)
    · have hchosen := hmatches.chosen [] i hi ⟨x, []⟩
      rwa [chosen_deviceNumber hg hfits hi, hmatches.items] at hchosen
  · rintro ⟨hfits, hbackwards, hresidue⟩
    have hitems : ∀ before, shown f x before = names := by
      intro before
      rw [shown_eq hf, if_pos hfits, hbackwards]
      exact hsplit
    refine ⟨hitems, fun before i hi w => ?_⟩
    rw [chosen_deviceNumber hg hfits hi, hitems]
    exact hresidue i hi

end matching

/-- A driver with these devices. -/
def adapters (names : List String) : Script Dm Reply := fun _ o =>
  match o with
  | .call (.FT_ListDevices .numDevs _) => { dword := some (UInt32.ofNat names.length) }
  | .call (.FT_ListDevices (.index i) _) => { name := names[i.toNat]? }
  | _ => {}

/-- That driver lists these devices, if their names are short enough. -/
lemma lists_adapters {names : List String} (hlength : names.length < 0x100000000)
    (hshort : ∀ d ∈ names, d.utf8ByteSize < 64) :
    Lists (adapters names) (UInt32.ofNat names.length) names where
  length := (UInt32.toNat_ofNat_of_lt hlength).symm
  count := fun _ => ⟨rfl, rfl⟩
  name := fun _ _ _ hd => ⟨rfl, hd⟩
  short := hshort

/-- Two devices: the menu has both in their order. -/
theorem two_devices_match :
    MenuMatches ["A", "B"] (adapters ["A", "B"]) (adapters ["A", "B"]) Obj.initial :=
  (menu_matches_iff (n := 2) (lists_adapters (by decide) (by decide))
    (lists_adapters (by decide) (by decide)) Obj.initial).mpr (by decide +kernel)

/-- Three devices: the menu has the third before the second. -/
theorem third_device_before_second :
    Lists (adapters ["A", "B", "C"]) 3 ["A", "B", "C"] ∧
      shown (adapters ["A", "B", "C"]) Obj.initial [] = ["A", "C", "B"] ∧
      ¬MenuMatches ["A", "B", "C"] (adapters ["A", "B", "C"]) (adapters ["A", "B", "C"])
        Obj.initial := by
  have hshown : shown (adapters ["A", "B", "C"]) Obj.initial [] = ["A", "C", "B"] := by
    decide +kernel
  refine ⟨lists_adapters (by decide) (by decide), hshown, fun hmatches => ?_⟩
  have hitems := hmatches.items []
  rw [hshown] at hitems
  exact absurd hitems (by decide)

end Dmx485
