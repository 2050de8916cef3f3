import IntelHex.Cli.Disk
import IntelHex.Image

/-!
# What is relied on of a memory and of an output file

Of a sparse memory only a few facts are relied on: that a byte is found where it was written last, and
that an image shows the content of a range with the holes filled, unless there is no content at all. Of
an output file it is that it is empty once it has been opened, holds what is put into it, and that no
other file is touched. The memory and the files here obey these laws.
-/

namespace IntelHex

/-- The facts that are relied on of a sparse memory with room for images of at most `room` bytes,
whatever it is made of. -/
structure MemoryLaws {M : Type} (empty : M) (peek : M → Int → Option UInt8)
    (write : M → Int → List UInt8 → M) (start endex : M → Int)
    (image : M → Extent → Except ImageError (List UInt8)) (room : Nat) : Prop where
  /-- Nothing is found in an empty memory. -/
  peek_empty (a : Int) : peek empty a = none
  /-- Written bytes are found from their address on, and nothing else changes. -/
  peek_write (m : M) (address a : Int) (data : List UInt8) :
    peek (write m address data) a =
      if address ≤ a ∧ a < address + data.length then data[(a - address).toNat]? else peek m a
  /-- To write nothing changes nothing. -/
  write_nil (m : M) (address : Int) : write m address [] = m
  /-- The start is zero if there is no content. -/
  start_hollow (m : M) (hhollow : ∀ a, peek m a = none) : start m = 0
  /-- Otherwise it is the least address with content. -/
  start_least (m : M) (a : Int) (hsome : (peek m a).isSome)
    (hleast : ∀ x, (peek m x).isSome → a ≤ x) : start m = a
  /-- The end is zero if there is no content. -/
  endex_hollow (m : M) (hhollow : ∀ a, peek m a = none) : endex m = 0
  /-- Otherwise it is one past the greatest address with content. -/
  endex_greatest (m : M) (a : Int) (hsome : (peek m a).isSome)
    (hgreatest : ∀ x, (peek m x).isSome → x ≤ a) : endex m = a + 1
  /-- The image of a range without addresses is empty. -/
  image_nothing (m : M) (extent : Extent) (hfill : 0 ≤ extent.fill ∧ extent.fill ≤ 255)
    (hrange : extent.endex.getD (endex m) ≤ extent.start.getD (start m)) : image m extent = .ok []
  /-- There is no image of other ranges if there is no content. -/
  image_hollow (m : M) (extent : Extent) (hfill : 0 ≤ extent.fill ∧ extent.fill ≤ 255)
    (hrange : extent.start.getD (start m) < extent.endex.getD (endex m))
    (hhollow : ∀ a, peek m a = none) : image m extent = .error .noContent
  /-- Otherwise it shows the content with the holes filled, if there is room for it. -/
  image_filled (m : M) (extent : Extent) (hfill : 0 ≤ extent.fill ∧ extent.fill ≤ 255)
    (hcontent : ∃ a, (peek m a).isSome)
    (hfits : Allocation.refusal? room 0
      (extent.endex.getD (endex m) - extent.start.getD (start m)).toNat = none) :
    image m extent = .ok ((List.range
      (extent.endex.getD (endex m) - extent.start.getD (start m)).toNat).map fun i =>
        (peek m (extent.start.getD (start m) + (i : Nat))).getD (UInt8.ofNat extent.fill.toNat))

namespace Memory

variable {m : Memory} {a : Int}

/-- The addresses with content are the keys. -/
theorem mem_keys_iff : a ∈ m.cells.keys ↔ (m.peek a).isSome := by
  rw [Std.TreeMap.mem_keys, Std.TreeMap.mem_iff_isSome_getElem?, peek]

/-- The keys ascend. -/
theorem ascending_keys (m : Memory) : m.cells.keys.Pairwise (· < ·) :=
  Std.TreeMap.ordered_keys.imp fun order => Int.compare_eq_lt.1 order

/-- A memory starts at its least address with content. -/
theorem start_eq_of_least (hsome : (m.peek a).isSome) (hleast : ∀ x, (m.peek x).isSome → a ≤ x) :
    m.start = a := by
  have hmem := mem_keys_iff.2 hsome
  have hascending := m.ascending_keys
  have hfound := fun x => (mem_keys_iff (m := m) (a := x)).1
  unfold start
  cases hkeys : m.cells.keys with
  | nil =>
    rw [hkeys] at hmem
    cases hmem
  | cons key rest =>
    rw [hkeys] at hmem hascending hfound
    have habove := hleast key (hfound key List.mem_cons_self)
    change key = a
    rcases List.mem_cons.1 hmem with hhere | hrest
    · exact hhere.symm
    · have hbelow := (List.pairwise_cons.1 hascending).1 a hrest
      omega

/-- A memory ends behind its greatest address with content. -/
theorem endex_eq_of_greatest (hsome : (m.peek a).isSome)
    (hgreatest : ∀ x, (m.peek x).isSome → x ≤ a) : m.endex = a + 1 := by
  have hmem := mem_keys_iff.2 hsome
  have hascending := m.ascending_keys
  have hfound := fun x => (mem_keys_iff (m := m) (a := x)).1
  unfold endex
  cases hlast : m.cells.keys.getLast? with
  | none =>
    rw [List.getLast?_eq_none_iff] at hlast
    rw [hlast] at hmem
    cases hmem
  | some key =>
    obtain ⟨before, hkeys⟩ := List.getLast?_eq_some_iff.1 hlast
    rw [hkeys] at hmem hascending hfound
    have hbelow := hgreatest key (hfound key (List.mem_append_right _ List.mem_cons_self))
    change key + 1 = a + 1
    rcases List.mem_append.1 hmem with hbefore | hhere
    · have habove := (List.pairwise_append.1 hascending).2.2 a hbefore key List.mem_cons_self
      omega
    · rw [List.mem_singleton.1 hhere]

/-- A memory is empty if there is no byte anywhere. -/
theorem isEmpty_iff : m.isEmpty = true ↔ ∀ x, m.peek x = none := by
  rw [isEmpty, Std.TreeMap.isEmpty_iff_forall_not_mem]
  simp only [Std.TreeMap.mem_iff_isSome_getElem?, peek, Option.not_isSome_iff_eq_none]

/-- A memory has content if there is a byte somewhere. -/
theorem isEmpty_eq_false_iff : m.isEmpty = false ↔ ∃ x, (m.peek x).isSome := by
  rw [← Bool.not_eq_true, isEmpty_iff, Classical.not_forall]
  simp only [Option.isSome_iff_ne_none, ne_eq]

/-- An empty memory has no keys. -/
theorem keys_of_isEmpty (h : m.isEmpty = true) : m.cells.keys = [] := by
  rwa [isEmpty, ← Std.TreeMap.isEmpty_keys, List.isEmpty_iff] at h

variable {extent : Extent} {room : Nat}

/-- A valid fill byte is no reason against an image. -/
theorem imageRefusal?_of_fill (hfill : 0 ≤ extent.fill ∧ extent.fill ≤ 255) :
    m.imageRefusal? extent room =
      if m.imageLength extent = 0 then none
      else if m.isEmpty then some .noContent
      else (Allocation.refusal? room 0 (m.imageLength extent)).map .allocation :=
  if_neg (by omega)

/-- The memory obeys the laws. -/
theorem laws (room : Nat) :
    MemoryLaws empty peek write start endex (fun m extent => m.image extent room) room where
  peek_empty := peek_empty
  peek_write := peek_write
  write_nil _ _ := rfl
  start_hollow m hhollow := by rw [start, keys_of_isEmpty (isEmpty_iff.2 hhollow), List.head?_nil]
  start_least _ _ := start_eq_of_least
  endex_hollow m hhollow := by
    rw [endex, keys_of_isEmpty (isEmpty_iff.2 hhollow), List.getLast?_nil]
  endex_greatest _ _ := endex_eq_of_greatest
  image_nothing m extent hfill hrange := by
    have hlength : m.imageLength extent = 0 := Int.toNat_eq_zero.2 (Int.sub_nonpos_of_le hrange)
    simp only [image, imageRefusal?_of_fill hfill, hlength, if_true]
    rfl
  image_hollow m extent hfill hrange hhollow := by
    have hlength : m.imageLength extent ≠ 0 := by
      rw [imageLength, imageEndex, imageStart]
      omega
    simp only [image, imageRefusal?_of_fill hfill, if_neg hlength, isEmpty_iff.2 hhollow, if_true]
  image_filled m extent hfill hcontent hfits := by
    have hgranted : m.imageRefusal? extent room = none := by
      have hblock : Allocation.refusal? room 0 (m.imageLength extent) = none := hfits
      rw [imageRefusal?_of_fill hfill, isEmpty_eq_false_iff.2 hcontent, hblock]
      simp
    simp only [image, hgranted]
    rfl

end Memory

/-! ### Output files -/

namespace Cli

/-- The facts that are relied on of the files of a disk, with the content found under a name, opening for
writing, which leads a name to a place, and putting bytes there. -/
structure OutputLaws {D : Type} (content : D → String → Option (List UInt8))
    (create : D → String → Except OpenError (String × D)) (put : D → String → List UInt8 → D) :
    Prop where
  /-- A file is empty once it has been opened. -/
  content_create (disk opened : D) (name place : String) (h : create disk name = .ok (place, opened)) :
    content opened place = some []
  /-- To open a file leaves the others alone. -/
  content_create_of_ne (disk opened : D) (name place other : String)
    (h : create disk name = .ok (place, opened)) (hother : other ≠ place) :
    content opened other = content disk other
  /-- What has been put somewhere is found there. -/
  content_put (disk : D) (place : String) (data : List UInt8) :
    content (put disk place data) place = some data
  /-- To put bytes somewhere leaves the other files alone. -/
  content_put_of_ne (disk : D) (place other : String) (data : List UInt8) (hother : other ≠ place) :
    content (put disk place data) other = content disk other

namespace Disk

variable {disk opened : Disk} {name place : String}

/-- The content of a file that is replaced is the new one. -/
theorem lookup_replace {files : List (String × List UInt8)} (data : List UInt8)
    (hfound : (files.lookup name).isSome) :
    (files.map fun file => if file.1 = name then (name, data) else file).lookup name =
      some data := by
  induction files with
  | nil => cases hfound
  | cons file rest ih =>
    by_cases hname : file.1 = name
    · rw [List.map_cons, if_pos hname, List.lookup_cons_self]
    · have hother : (name == file.1) = false := beq_false_of_ne (Ne.symm hname)
      rw [List.lookup_cons, hother] at hfound
      rw [List.map_cons, if_neg hname, List.lookup_cons, hother]
      exact ih hfound

/-- A file that is replaced leaves the other files alone. -/
theorem lookup_replace_of_ne (files : List (String × List UInt8)) (data : List UInt8)
    {other : String} (hother : other ≠ name) :
    (files.map fun file => if file.1 = name then (name, data) else file).lookup other =
      files.lookup other := by
  have hname : (other == name) = false := beq_false_of_ne hother
  induction files with
  | nil => rfl
  | cons file rest ih =>
    rw [List.map_cons]
    by_cases hfile : file.1 = name
    · rw [if_pos hfile, List.lookup_cons, List.lookup_cons, hfile, hname]
      exact ih
    · rw [if_neg hfile, List.lookup_cons, List.lookup_cons, ih]

/-- A file that has been put somewhere is found there. -/
theorem lookup_put (disk : Disk) (name : String) (data : List UInt8) :
    (disk.put name data).files.lookup name = some data := by
  unfold put
  split
  · next hfound => exact lookup_replace data hfound
  · next hfound =>
    have hmissing : disk.files.lookup name = none := Option.not_isSome_iff_eq_none.1 hfound
    rw [List.lookup_append, hmissing, List.lookup_cons_self]
    rfl

/-- A file that is put somewhere leaves the other files alone. -/
theorem lookup_put_of_ne (disk : Disk) (data : List UInt8) {other : String}
    (hother : other ≠ name) : (disk.put name data).files.lookup other = disk.files.lookup other := by
  have hname : (other == name) = false := beq_false_of_ne hother
  unfold put
  split
  · exact lookup_replace_of_ne disk.files data hother
  · rw [List.lookup_append, List.lookup_cons, hname, List.lookup_nil, Option.or_none]

/-- To create a file is to put an empty one in its place. -/
theorem create_eq_put (h : disk.create name = .ok (place, opened)) : opened = disk.put place [] := by
  unfold create at h
  split at h
  · split at h <;> cases h
  · split at h
    · cases h
    · split at h
      · cases h
      · cases h
        rfl

/-- The files obey the laws. -/
theorem laws : OutputLaws (fun disk name => disk.files.lookup name) create put where
  content_create disk _ _ place h := create_eq_put h ▸ disk.lookup_put place []
  content_create_of_ne disk _ _ _ _ h hother := create_eq_put h ▸ disk.lookup_put_of_ne [] hother
  content_put := lookup_put
  content_put_of_ne disk _ _ data hother := disk.lookup_put_of_ne data hother

end Disk

end Cli

end IntelHex
