import Mathlib.Data.Set.Function
import UnicodeIdentifier.Classifier.Source
import UnicodeIdentifier.Proofs.Numeral.Written

/-!
# Source text determines the data

No two classifiers have the same source text, and neither have two lists of named tables.  Each piece
of the text tells where it ends: no digit follows a number, the line that closes a view begins unlike
the line of an interval, and a name goes no further than its line.  A piece is therefore found in any
text that begins with it, and so is what follows it.
-/

namespace UnicodeIdentifier

variable {rest after : List Char}

theorem Version.toList_source_append (major minor micro : UInt8) :
    (source ⟨major, minor, micro⟩ ", ").toList ++ rest =
      (Numeral.decimal major.toNat).toList ++ ',' :: ' ' ::
        ((Numeral.decimal minor.toNat).toList ++ ',' :: ' ' ::
          ((Numeral.decimal micro.toNat).toList ++ rest)) := by
  unfold source
  simp

theorem Version.source_append_cons_inj {version other : Version}
    (same : (version.source ", ").toList ++ ')' :: rest =
      (other.source ", ").toList ++ ')' :: after) : version = other ∧ rest = after := by
  obtain ⟨major, minor, micro⟩ := version
  obtain ⟨otherMajor, otherMinor, otherMicro⟩ := other
  rw [toList_source_append, toList_source_append] at same
  obtain ⟨rfl, sameMinor⟩ := Numeral.decimal_append_cons_inj (by decide) same
  obtain ⟨rfl, sameMicro⟩ :=
    Numeral.decimal_append_cons_inj (by decide) (List.tail_eq_of_cons_eq sameMinor)
  obtain ⟨rfl, sameRest⟩ :=
    Numeral.decimal_append_cons_inj (by decide) (List.tail_eq_of_cons_eq sameMicro)
  exact ⟨rfl, sameRest⟩

theorem AsciiMask.toList_source (mask : AsciiMask) :
    mask.source.toList = '0' :: 'x' :: Numeral.writeChars 16 32 mask.toNat := by
  unfold source
  simp [Numeral.write]

theorem AsciiMask.source_append_cons_inj {mask other : AsciiMask}
    (same : mask.source.toList ++ ';' :: rest = other.source.toList ++ ';' :: after) :
    mask = other ∧ rest = after := by
  simp only [toList_source, List.cons_append, List.cons.injEq, true_and] at same
  exact (Numeral.writeChars_append_cons_inj (by decide) (by decide) (by decide) same).imp_left
    BitVec.eq_of_toNat_eq

theorem Interval.toList_source_append (lo hi : UInt32) : (source ⟨lo, hi⟩).toList ++ rest =
    "        (0x".toList ++ ((Numeral.hex4 lo).toList ++ ',' ::
      (" 0x".toList ++ ((Numeral.hex4 hi).toList ++ ')' :: (",\n".toList ++ rest)))) := by
  unfold source
  simp

/-- An interval is found in any text that begins with its line. -/
theorem Interval.source_append_inj {interval other : Interval}
    (same : interval.source.toList ++ rest = other.source.toList ++ after) :
    interval = other ∧ rest = after := by
  obtain ⟨lo, hi⟩ := interval
  obtain ⟨otherLo, otherHi⟩ := other
  rw [toList_source_append, toList_source_append] at same
  obtain ⟨rfl, sameHi⟩ := Numeral.hex4_append_cons_inj (by decide) (List.append_cancel_left same)
  obtain ⟨rfl, sameEnd⟩ := Numeral.hex4_append_cons_inj (by decide) (List.append_cancel_left sameHi)
  exact ⟨rfl, List.append_cancel_left sameEnd⟩

theorem Interval.source_append_ne_close (interval : Interval) :
    interval.source.toList ++ rest ≠ "    ],\n".toList ++ after := by
  unfold source
  simp

namespace IntervalTable

variable {table other : IntervalTable} {name otherName view : String}
  {intervals others : List Interval}

theorem toList_viewSource_append (view : String) (intervals : List Interval) :
    (viewSource view intervals).toList ++ rest = "    ".toList ++ (view.toList ++ (": &[\n".toList ++
      (intervals.flatMap (·.source.toList) ++ ("    ],\n".toList ++ rest)))) := by
  unfold viewSource
  simp [String.toList_join, List.flatMap_map]

theorem viewSource_append_inj
    (same : (viewSource view intervals).toList ++ rest =
      (viewSource view others).toList ++ after) : intervals = others ∧ rest = after := by
  rw [toList_viewSource_append, toList_viewSource_append] at same
  have sameLines :=
    List.append_cancel_left (List.append_cancel_left (List.append_cancel_left same))
  obtain ⟨sameIntervals, sameClose⟩ := Text.flatMap_append_inj
    (fun _ _ _ _ _ _ => Interval.source_append_inj)
    (fun interval _ => interval.source_append_ne_close)
    (fun interval _ => interval.source_append_ne_close) sameLines
  exact ⟨sameIntervals, List.append_cancel_left sameClose⟩

theorem toList_source_append (narrow : List Interval) (wide : Array Interval) (name : String) :
    (source ⟨narrow, wide⟩ name).toList ++ rest = "pub static ".toList ++
      ((name.toList ++ ": RangeTable = RangeTable \x7b".toList) ++ '\n' ::
        ((viewSource "latin1" narrow).toList ++
          ((viewSource "wide" wide.toList).toList ++ ("\x7d;\n".toList ++ rest)))) := by
  unfold source
  simp

/-- A table and a name without line feeds are found in any text that begins with the table's lines
under the name. -/
theorem source_append_inj (noFeed : '\n' ∉ name.toList) (otherNoFeed : '\n' ∉ otherName.toList)
    (same : (table.source name).toList ++ rest = (other.source otherName).toList ++ after) :
    (name = otherName ∧ table = other) ∧ rest = after := by
  have headNoFeed {name : String} (noFeed : '\n' ∉ name.toList) :
      '\n' ∉ name.toList ++ ": RangeTable = RangeTable \x7b".toList :=
    List.not_mem_append noFeed (by decide)
  obtain ⟨narrow, wide⟩ := table
  obtain ⟨otherNarrow, otherWide⟩ := other
  rw [toList_source_append, toList_source_append] at same
  -- the name may hold the words that follow it, so the cut is made at the end of the line
  obtain ⟨sameHead, sameViews⟩ := Text.append_cons_inj (headNoFeed noFeed)
    (headNoFeed otherNoFeed) (List.append_cancel_left same)
  have sameName : name = otherName := String.toList_inj.mp (List.append_cancel_right sameHead)
  obtain ⟨rfl, sameView⟩ := viewSource_append_inj sameViews
  obtain ⟨sameWide, sameEnd⟩ := viewSource_append_inj sameView
  obtain rfl := Array.toList_inj.mp sameWide
  exact ⟨⟨sameName, rfl⟩, List.append_cancel_left sameEnd⟩

theorem source_append_ne_nil (table : IntervalTable) (name : String) :
    (table.source name).toList ++ rest ≠ [] := by
  unfold source
  simp

theorem sources_injOn :
    Set.InjOn sources {tables | ∀ named ∈ tables, '\n' ∉ named.1.toList} := by
  intro tables noFeeds others otherNoFeeds same
  have toList_sources (tables : List (String × IntervalTable)) : (sources tables).toList ++ [] =
      tables.flatMap (fun named => (named.2.source named.1).toList) ++ [] := by
    simp [sources, String.toList_join, List.flatMap_map]
  have sameChars := congrArg (fun text : String => text.toList ++ []) same
  rw [toList_sources, toList_sources] at sameChars
  have item_inj : ∀ named ∈ tables, ∀ other ∈ others, ∀ rest after,
      (named.2.source named.1).toList ++ rest = (other.2.source other.1).toList ++ after →
        named = other ∧ rest = after := by
    intro named member other otherMember rest after sameText
    rw [Prod.ext_iff]
    exact source_append_inj (noFeeds named member) (otherNoFeeds other otherMember) sameText
  exact (Text.flatMap_append_inj item_inj (fun named _ => source_append_ne_nil named.2 named.1)
    (fun named _ => source_append_ne_nil named.2 named.1) sameChars).1

-- a name of several lines can hold a whole table, so two tables may be written like one
example : sources [("A", ⟨[], #[]⟩), ("B", ⟨[], #[]⟩)] = sources [(
    "A: RangeTable = RangeTable \x7b\n    latin1: &[\n    ],\n    wide: &[\n    ],\n\x7d;\n" ++
      "pub static B", ⟨[], #[]⟩)] := by
  decide +kernel

end IntervalTable

namespace Classifier

theorem toList_source (classifier : Classifier) : classifier.source.toList =
    "use crate::table::RangeTable;\n\n".toList ++
      ("pub const UNICODE_VERSION: (u8, u8, u8) = (".toList ++
        ((classifier.version.source ", ").toList ++ ')' :: (";\n\n".toList ++
          ("pub(crate) const ASCII_START: u128 = ".toList ++
            (classifier.startMask.source.toList ++ ';' :: ("\n".toList ++
              ("pub(crate) const ASCII_CONTINUE: u128 = ".toList ++
                (classifier.continueMask.source.toList ++ ';' :: ("\n\n".toList ++
                  ((classifier.start.source "ID_START").toList ++ ("\n".toList ++
                    ((classifier.continuing.source "ID_CONTINUE").toList ++ [])))))))))))) := by
  unfold source
  simp

theorem source_injective : Function.Injective source := by
  intro classifier other same
  obtain ⟨version, startMask, continueMask, start, continuing⟩ := classifier
  obtain ⟨otherVersion, otherStartMask, otherContinueMask, otherStart, otherContinuing⟩ := other
  have sameChars := congrArg String.toList same
  rw [toList_source, toList_source] at sameChars
  obtain ⟨rfl, sameMasks⟩ := Version.source_append_cons_inj
    (List.append_cancel_left (List.append_cancel_left sameChars))
  obtain ⟨rfl, sameMask⟩ := AsciiMask.source_append_cons_inj
    (List.append_cancel_left (List.append_cancel_left sameMasks))
  obtain ⟨rfl, sameTables⟩ := AsciiMask.source_append_cons_inj
    (List.append_cancel_left (List.append_cancel_left sameMask))
  obtain ⟨⟨-, rfl⟩, sameTable⟩ := IntervalTable.source_append_inj (by decide) (by decide)
    (List.append_cancel_left sameTables)
  obtain ⟨⟨-, rfl⟩, -⟩ := IntervalTable.source_append_inj (by decide) (by decide)
    (List.append_cancel_left sameTable)
  rfl

end Classifier

/-- Lists of tables under names without line feeds have the same text only if they are the same, and
so have two classifiers. -/
theorem sources_injOn_and_source_injective :
    Set.InjOn IntervalTable.sources {tables | ∀ named ∈ tables, '\n' ∉ named.1.toList} ∧
      Function.Injective Classifier.source :=
  ⟨IntervalTable.sources_injOn, Classifier.source_injective⟩

end UnicodeIdentifier
