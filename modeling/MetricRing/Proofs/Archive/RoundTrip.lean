import Mathlib
import MetricRing.Proofs.Archive.Entries
import MetricRing.Proofs.Archive.PathNames
/-!
# Exporting metrics to a tar archive and reading them back

Writing metrics to a `TarSink` over an output without a limit and finishing it always
succeeds, for names without NUL and the sizes the daemon's report allows. A reader then lists
one regular file per metric, in order, with the received bytes as its data and size, the mode
reduced to seven octal digits and the modification time clamped at zero; the archive ends with
two zero blocks.

The path it lists is not always the metric's path: a name field records a path part by part,
so the empty parts that repeated dots of a name leave in its path are lost, and `a..b` is
listed at `a/b.wsp`. Only when the recorded path does not fit the name field does a long-name
entry carry the path byte for byte.

## Main statements

* `Archive.write_archived` : what writing one metric appends;
* `Archive.members_of_archive` : what a reader lists for such a stream;
* `Archive.tar_export_round_trip` : **the round trip**.
-/

namespace MetricRing.Archive

/-! ### What a metric writes -/

/-- What the export needs of a metric: a name without NUL, and the bounds the daemon's signed
64-bit report and a machine's memory put on its name, data and modification time. -/
structure Exportable (m : MetricData) : Prop where
  name_nul : '\x00' ∉ m.name.toList
  name_length : m.name.length < 2 ^ 60
  data_length : m.data.length < 2 ^ 64
  mod_time : m.stat.modTime < 2 ^ 63

theorem shaped_headerOf (m : MetricData) {name : Bytes} (hn : name.length = 100) :
    { TarSink.headerOf m with name }.Shaped where
  name := hn
  mode := octal_length 8 _ (by decide)
  uid := rfl
  gid := rfl
  size := numeric_length _
  mtime := numeric_length _

theorem shaped_longName (n : Nat) : (Header.longName n).Shaped where
  name := rfl
  mode := octal_length 8 _ (by decide)
  uid := octal_length 8 _ (by decide)
  gid := octal_length 8 _ (by decide)
  size := numeric_length _
  mtime := octal_length 12 0 (by decide)

theorem length_flatMap_utf8EncodeChar_le (l : List Char) :
    (l.flatMap String.utf8EncodeChar).length ≤ 4 * l.length := by
  induction l with
  | nil => simp
  | cons c l ih =>
    rw [List.flatMap_cons, List.length_append, String.length_utf8EncodeChar, List.length_cons]
    have := Char.utf8Size_le_four c
    omega

/-- A name shorter than `2 ^ 60` characters has a path shorter than `2 ^ 63` bytes. -/
theorem length_metricToPath_lt {m : String} (h : m.length < 2 ^ 60) :
    (metricToPath m).toUTF8.toList.length < 2 ^ 63 := by
  have hchars : (metricToPath m).toList.length ≤ m.length + 4 := by
    rw [toList_metricToPath, List.length_append, toList_suffix, ← String.length_toList]
    have := (List.dropWhile_suffix (· = '/')
      (l := m.toList.map fun c => if c = '.' then '/' else c)).length_le
    simp only [List.length_map] at this
    simp only [List.length_cons, List.length_nil]
    omega
  have hbytes := length_flatMap_utf8EncodeChar_le (metricToPath m).toList
  rw [toList_toUTF8]
  omega

/-- The bytes of one exported metric: its header block and data, after a long-name entry that
carries the path when its recorded form does not fit the name field. -/
def Archived (m : MetricData) (bs : Bytes) : Prop :=
  let path := (metricToPath m.name).toUTF8.toList
  let recorded := (recordedPath (metricToPath m.name)).toUTF8.toList
  if recorded.length ≤ 100 then
    bs = block { TarSink.headerOf m with name := fill (zeros 100) recorded }.toBytes m.data
  else ∃ name, name.length = 100 ∧
    bs = block (Header.longName path.length).toBytes (path ++ [0]) ++
      block { TarSink.headerOf m with name }.toBytes m.data

theorem archived_iff_of_fits {m : MetricData} {bs : Bytes}
    (hfit : (recordedPath (metricToPath m.name)).toUTF8.toList.length ≤ 100) :
    Archived m bs ↔ bs = block { TarSink.headerOf m with
      name := fill (zeros 100) (recordedPath (metricToPath m.name)).toUTF8.toList }.toBytes m.data := by
  dsimp only [Archived]
  rw [if_pos hfit]

theorem archived_iff_of_too_long {m : MetricData} {bs : Bytes}
    (hlong : ¬(recordedPath (metricToPath m.name)).toUTF8.toList.length ≤ 100) :
    Archived m bs ↔ ∃ name, name.length = 100 ∧
      bs = block (Header.longName (metricToPath m.name).toUTF8.toList.length).toBytes
          ((metricToPath m.name).toUTF8.toList ++ [0]) ++
        block { TarSink.headerOf m with name }.toBytes m.data := by
  dsimp only [Archived]
  rw [if_neg hlong]

theorem onWrite_ok {α : Type} (a : α) : TarSink.onWrite (.ok a) = .ok a := rfl

theorem onName_ok {α : Type} (a : α) : TarSink.onName (.ok a) = .ok a := rfl

/-- A metric whose path the header takes is written as one block. -/
theorem write_of_setPath_ok {s : TarSink} {m : MetricData} {H : Header}
    (h : (TarSink.headerOf m).setPath (metricToPath m.name) = .ok H) :
    s.write m = TarSink.onWrite (appendEntry s.out H.toBytes m.data) >>= fun o => pure ⟨o⟩ := by
  unfold TarSink.write
  dsimp only
  rw [h]
  rfl

/-- A metric whose path the header refuses, and which is not short, is written as a long-name
block and the block of a header holding the cut path. -/
theorem write_of_setPath_error {s : TarSink} {m : MetricData} {e : NameError}
    (h : (TarSink.headerOf m).setPath (metricToPath m.name) = .error e)
    (hlen : ¬(metricToPath m.name).toUTF8.toList.length < 100) :
    s.write m = (do
      let o ← TarSink.onWrite (appendEntry s.out
        (Header.longName (metricToPath m.name).toUTF8.toList.length).toBytes
        ((metricToPath m.name).toUTF8.toList ++ [0]))
      let H ← TarSink.onName ({ TarSink.headerOf m with name := e.field }.setPath
        (utf8Prefix (metricToPath m.name) 100))
      let o ← TarSink.onWrite (appendEntry o H.toBytes m.data)
      pure ⟨o⟩) := by
  unfold TarSink.write
  dsimp only
  rw [h]
  dsimp only
  rw [if_neg hlen]
  rfl

/-- Writing a metric into an output without a limit succeeds and appends its bytes. -/
theorem write_archived {s : TarSink} (hl : s.out.limit = none) {m : MetricData}
    (hm : Exportable m) :
    ∃ s' bs, s.write m = .ok s' ∧ Archived m bs ∧ s'.out.contents = s.out.contents ++ bs ∧
      s'.out.limit = none := by
  have hname : (TarSink.headerOf m).name.length = 100 := rfl
  by_cases hfit : (recordedPath (metricToPath m.name)).toUTF8.toList.length ≤ 100
  · -- the recorded path goes into the header
    set H : Header := { TarSink.headerOf m with
      name := fill (zeros 100) (recordedPath (metricToPath m.name)).toUTF8.toList }
    have hset : (TarSink.headerOf m).setPath (metricToPath m.name) = .ok H :=
      setPath_metricToPath_of_fits hm.name_nul (by rw [hname]; exact hfit)
    obtain ⟨o, happ, hcont, hlim⟩ := appendEntry_of_unlimited hl H.toBytes m.data
    refine ⟨⟨o⟩, _, ?_, (archived_iff_of_fits hfit).2 rfl, hcont, hlim⟩
    rw [write_of_setPath_ok hset, happ]
    rfl
  · -- the path goes into a long-name entry, and its cut into the header
    have hlong : 100 < (recordedPath (metricToPath m.name)).toUTF8.toList.length := by omega
    obtain ⟨e, hset, hfield⟩ := setPath_metricToPath_of_too_long (h := TarSink.headerOf m)
      hm.name_nul (by rw [hname]; exact hlong)
    have hpath : ¬(metricToPath m.name).toUTF8.toList.length < 100 := by
      have := length_recordedPath_le (metricToPath m.name)
      omega
    obtain ⟨name, hcut, hname'⟩ := setPath_utf8Prefix (h := TarSink.headerOf m) hm.name_nul hlong
      (hfield.trans hname)
    obtain ⟨o₁, happ₁, hcont₁, hlim₁⟩ := appendEntry_of_unlimited hl
      (Header.longName (metricToPath m.name).toUTF8.toList.length).toBytes
      ((metricToPath m.name).toUTF8.toList ++ [0])
    set H : Header := { TarSink.headerOf m with name }
    obtain ⟨o₂, happ₂, hcont₂, hlim₂⟩ := appendEntry_of_unlimited hlim₁ H.toBytes m.data
    refine ⟨⟨o₂⟩, _, ?_, (archived_iff_of_too_long hfit).2 ⟨name, hname', rfl⟩,
      by rw [hcont₂, hcont₁, List.append_assoc], hlim₂⟩
    rw [write_of_setPath_error hset hpath, happ₁, onWrite_ok, ok_bind, hcut, onName_ok, ok_bind,
      happ₂]
    rfl

/-- Writing metrics in order appends their bytes in order. -/
theorem foldlM_write_archived : ∀ (ms : List MetricData) (s : TarSink), s.out.limit = none →
    (∀ m ∈ ms, Exportable m) →
    ∃ s' bss, ms.foldlM TarSink.write s = .ok s' ∧ List.Forall₂ Archived ms bss ∧
      s'.out.contents = s.out.contents ++ bss.flatten ∧ s'.out.limit = none
  | [], s, _, _ => ⟨s, [], rfl, .nil, by simp, by assumption⟩
  | m :: ms, s, hl, hms => by
    obtain ⟨s₁, bs, hw, harch, hcont, hl₁⟩ := write_archived hl (hms m List.mem_cons_self)
    obtain ⟨s', bss, hfold, hall, hcont', hl'⟩ :=
      foldlM_write_archived ms s₁ hl₁ fun m' hm' => hms m' (List.mem_cons_of_mem m hm')
    refine ⟨s', bs :: bss, ?_, .cons harch hall, by simp [hcont', hcont], hl'⟩
    rw [List.foldlM_cons, hw, ok_bind, hfold]

/-! ### What a reader lists -/

/-- What a reader lists for an exported metric: a regular file at the recorded path, or at the
path itself when a long-name entry carries it, with the received bytes, the mode reduced to
seven octal digits and the modification time clamped at zero. -/
def listedMember (m : MetricData) : Member :=
  let recorded := (recordedPath (metricToPath m.name)).toUTF8.toList
  { path := if recorded.length ≤ 100 then recorded else (metricToPath m.name).toUTF8.toList
    longName := decide (100 < recorded.length)
    kind := 0
    size := m.data.length
    mode := (m.stat.mode % 2097152).toNat
    mtime := (max m.stat.modTime 0).toNat
    data := m.data }

theorem readNumeric_mode_headerOf (m : MetricData) :
    readNumeric (TarSink.headerOf m).mode = (m.stat.mode % 2097152).toNat := by
  rw [TarSink.headerOf, readNumeric_octal 8 _ (by decide)]
  -- seven octal digits of the mode modulo 2 ^ 32 are the mode modulo 2 ^ 21
  have h : m.stat.mode % 4294967296 % 2097152 = m.stat.mode % 2097152 :=
    Int.emod_emod_of_dvd _ (by norm_num)
  omega

theorem kind_headerOf (m : MetricData) :
    (TarSink.headerOf m).kind ≠ byteOf 'L' ∧ (TarSink.headerOf m).kind ≠ byteOf 'K' :=
  ⟨show (0 : UInt8) ≠ byteOf 'L' by decide, show (0 : UInt8) ≠ byteOf 'K' by decide⟩

theorem length_fill_zeros {J : Bytes} (hJ : J.length ≤ 100) : (fill (zeros 100) J).length = 100 :=
  length_fill (by rw [zeros, List.length_replicate]; exact hJ)

section Read

variable {m : MetricData} (hm : Exportable m)
include hm

theorem readNumeric_size_headerOf : readNumeric (TarSink.headerOf m).size = m.data.length :=
  readNumeric_numeric _ hm.data_length

theorem readNumeric_mtime_headerOf :
    readNumeric (TarSink.headerOf m).mtime = (max m.stat.modTime 0).toNat :=
  readNumeric_numeric _ (by have := hm.mod_time; omega)

theorem readNumeric_size_longName :
    readNumeric (Header.longName (metricToPath m.name).toUTF8.toList.length).size =
      ((metricToPath m.name).toUTF8.toList ++ [0]).length := by
  rw [List.length_append, List.length_singleton]
  exact readNumeric_numeric _ (by have := length_metricToPath_lt hm.name_length; omega)

theorem zero_not_mem_recordedPath : 0 ∉ (recordedPath (metricToPath m.name)).toUTF8.toList := by
  rw [toList_toUTF8]
  refine not_mem_flatMap_utf8EncodeChar (c := '\x00') (by decide) fun h => ?_
  exact not_mem_nul_metricToPath hm.name_nul ((recordedPath_sublist _).subset h)

/-- An exported metric's entry reads back as its listed member. -/
theorem ofEntry_archived {bs : Bytes} (h : Archived m bs) : Member.ofEntry bs = listedMember m := by
  by_cases hfit : (recordedPath (metricToPath m.name)).toUTF8.toList.length ≤ 100
  · rw [archived_iff_of_fits hfit] at h
    have hs := shaped_headerOf m (length_fill_zeros hfit)
    rw [h]
    refine (ofEntry_block hs (readNumeric_size_headerOf hm) (kind_headerOf m).1).trans ?_
    simp only [listedMember, if_pos hfit, takeWhile_fill _ (zero_not_mem_recordedPath hm),
      readNumeric_mode_headerOf m, readNumeric_mtime_headerOf hm, decide_eq_false (not_lt.2 hfit)]
    rfl
  · rw [archived_iff_of_too_long hfit] at h
    obtain ⟨name, hname, rfl⟩ := h
    refine (ofEntry_longName (shaped_longName _) _ (readNumeric_size_longName hm) rfl
      (shaped_headerOf m hname) (readNumeric_size_headerOf hm)).trans ?_
    simp only [listedMember, if_neg hfit, readNumeric_mode_headerOf m,
      readNumeric_mtime_headerOf hm, decide_eq_true (not_le.1 hfit)]
    rfl

/-- A reader cuts an exported metric's bytes off as one entry, within the fuel the stream's
blocks give. -/
theorem cutEntries_archived {bs : Bytes} (h : Archived m bs) (rest : Bytes) {fuel : Nat}
    (hfuel : (bs ++ rest).length / 512 ≤ fuel) :
    ∃ f, rest.length / 512 ≤ f ∧
      cutEntries fuel (bs ++ rest) [] = (bs :: (cutEntries f rest []).1, (cutEntries f rest []).2) := by
  by_cases hfit : (recordedPath (metricToPath m.name)).toUTF8.toList.length ≤ 100
  · rw [archived_iff_of_fits hfit] at h
    subst h
    exact cutEntries_block_of_fuel (shaped_headerOf m (length_fill_zeros hfit))
      (readNumeric_size_headerOf hm) (kind_headerOf m) rest hfuel
  · rw [archived_iff_of_too_long hfit] at h
    obtain ⟨name, hname, rfl⟩ := h
    exact cutEntries_longName_of_fuel (shaped_longName _) (readNumeric_size_longName hm) rfl
      (shaped_headerOf m hname) (readNumeric_size_headerOf hm) (kind_headerOf m) rest hfuel

end Read

/-! ### The stream -/

/-- A reader cuts a stream of exported metrics and two zero blocks into the metrics' bytes, and
keeps the zero blocks as the tail. -/
theorem cutEntries_archive {ms : List MetricData} {bss : List Bytes}
    (hall : List.Forall₂ Archived ms bss) (hms : ∀ m ∈ ms, Exportable m) :
    ∀ {fuel : Nat}, (bss.flatten ++ zeros 1024).length / 512 ≤ fuel →
      cutEntries fuel (bss.flatten ++ zeros 1024) [] = (bss, zeros 1024) := by
  induction hall with
  | nil => exact fun _ => cutEntries_zeros _
  | @cons m bs ms bss h _ ih =>
    intro fuel hfuel
    rw [List.flatten_cons, List.append_assoc] at hfuel ⊢
    obtain ⟨f, hf, hcut⟩ := cutEntries_archived (hms m List.mem_cons_self) h _ hfuel
    rw [hcut, ih (fun m' hm' => hms m' (List.mem_cons_of_mem m hm')) hf]

theorem map_ofEntry_archive {ms : List MetricData} {bss : List Bytes}
    (hall : List.Forall₂ Archived ms bss) (hms : ∀ m ∈ ms, Exportable m) :
    bss.map Member.ofEntry = ms.map listedMember := by
  induction hall with
  | nil => rfl
  | @cons m bs ms bss h _ ih =>
    rw [List.map_cons, List.map_cons, ofEntry_archived (hms m List.mem_cons_self) h,
      ih fun m' hm' => hms m' (List.mem_cons_of_mem m hm')]

/-- What a reader lists for exported metrics followed by two zero blocks. -/
theorem members_of_archive {ms : List MetricData} {bss : List Bytes}
    (hall : List.Forall₂ Archived ms bss) (hms : ∀ m ∈ ms, Exportable m) :
    (View.ofBytes (bss.flatten ++ zeros 1024)).members = ms.map listedMember ∧
      (View.ofBytes (bss.flatten ++ zeros 1024)).tail = zeros 1024 := by
  rw [View.ofBytes, cutEntries_archive hall hms (by omega)]
  exact ⟨map_ofEntry_archive hall hms, rfl⟩

/-- Exporting metrics to a fresh archive writes each metric's bytes, in order, and the two zero
blocks. -/
theorem export_archived (ms : List MetricData) (hms : ∀ m ∈ ms, Exportable m) :
    ∃ out bss, (ms.foldlM TarSink.write (TarSink.new (Output.withLimit none)) >>=
        TarSink.finish) = .ok out ∧
      List.Forall₂ Archived ms bss ∧ out.contents = bss.flatten ++ zeros 1024 := by
  obtain ⟨s, bss, hfold, hall, hcont, hl⟩ :=
    foldlM_write_archived ms (TarSink.new (Output.withLimit none)) rfl hms
  obtain ⟨out, hemit, hcont', -⟩ := emit_of_unlimited hl (zeros 1024)
  refine ⟨out, bss, ?_, hall, ?_⟩
  · rw [hfold, ok_bind, TarSink.finish, hemit]
    rfl
  · rw [hcont', hcont]
    rfl

/-- **The round trip.** Exporting metrics whose names hold no NUL to an archive over an output
without a limit succeeds, and a reader lists one regular file per metric, in order: at the
recorded path of the metric's path when it fits the name field, else, after a long-name entry,
at the path itself; with the received bytes as size and data, the mode modulo `2 ^ 21` and the
modification time clamped at zero. The archive ends with two zero blocks. -/
theorem tar_export_round_trip (ms : List MetricData) (hms : ∀ m ∈ ms, Exportable m) :
    ∃ out, (ms.foldlM TarSink.write (TarSink.new (Output.withLimit none)) >>=
        TarSink.finish) = .ok out ∧
      (View.ofBytes out.contents).members = ms.map listedMember ∧
      (View.ofBytes out.contents).tail = zeros 1024 := by
  obtain ⟨out, bss, hrun, hall, hcont⟩ := export_archived ms hms
  refine ⟨out, hrun, ?_⟩
  rw [hcont]
  exact members_of_archive hall hms

theorem tar_export_round_trip_of_one_metric :
    let ms : List MetricData := [⟨⟨"carbon.agents.a.cpuUsage", 1, 420, 0⟩, [120]⟩]
    (∀ m ∈ ms, Exportable m) ∧
      ∃ out, (ms.foldlM TarSink.write (TarSink.new (Output.withLimit none)) >>=
          TarSink.finish) = .ok out ∧
        (View.ofBytes out.contents).members = ms.map listedMember ∧
        (View.ofBytes out.contents).tail = zeros 1024 := by
  intro ms
  have hms : ∀ m ∈ ms, Exportable m := by
    intro m hm
    rw [List.mem_singleton] at hm
    subst hm
    exact ⟨by decide, by decide, by decide, by decide⟩
  exact ⟨hms, tar_export_round_trip ms hms⟩

/-- A name with two dots in a row is listed at its path with the empty part dropped: `a..b` is
stored at `a//b.wsp`, and a reader lists it at `a/b.wsp`. -/
theorem tar_export_lists_collapsed_path :
    let m : MetricData := ⟨⟨"a..b", 1, 420, 0⟩, [120]⟩
    ∃ out, ([m].foldlM TarSink.write (TarSink.new (Output.withLimit none)) >>=
        TarSink.finish) = .ok out ∧
      (View.ofBytes out.contents).members.map Member.path = ["a/b.wsp".toUTF8.toList] ∧
      "a/b.wsp".toUTF8.toList ≠ (metricToPath m.name).toUTF8.toList := by
  intro m
  have hm : Exportable m := ⟨by decide, by decide, by decide, by decide⟩
  have hms : ∀ m' ∈ [m], Exportable m' := by
    intro m' hm'
    rw [List.mem_singleton] at hm'
    exact hm' ▸ hm
  have hpath : metricToPath m.name = "a//b.wsp" := by decide +kernel
  have hrecorded : recordedPath (metricToPath m.name) = "a/b.wsp" := by
    rw [hpath]
    decide +kernel
  obtain ⟨out, bss, hrun, hall, hcont⟩ := export_archived [m] hms
  refine ⟨out, hrun, ?_, ?_⟩
  · rw [hcont, (members_of_archive hall hms).1]
    simp only [List.map_cons, List.map_nil, listedMember, hrecorded]
    rw [if_pos (by rw [toList_toUTF8]; decide)]
  · rw [hpath, toList_toUTF8, toList_toUTF8]
    decide

end MetricRing.Archive
