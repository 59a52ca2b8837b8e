import ReportCompiler.Layout.Basic

/-!
# The layout of the performance analysis report

The layout that is used when no other is given.  Its sections are, in order: the head of the report,
statistics, cycle accounting, busy rates, caches, instructions, power, prefetching, floating-point
operations and extra counters.

* `Layout.analysis` - the layout.
-/

namespace ReportCompiler

/-- The entries of the performance analysis report. -/
def analysisEntries : List Entry :=
  [.single [] "A3" "C3",
   .single [] "A4" "C4",
   .single [] "H3" "J3",
   .single [] "H5" "J5",
   .single [] "O3" "Q3",
   .single [] "O4" "Q4",
   .table ["A8"] "C" "N" 8 14 12,
   .table ["P8", "R8"] "R" "S" 9 14 12,
   .table ["P8", "T8"] "T" "Y" 9 14 12,
   .table ["P8", "Z8"] "Z" "AA" 9 14 12,
   .table ["P8", "AB8"] "AB" "AC" 9 14 12,
   .table ["P8"] "AD" "AG" 8 14 12,
   .table ["P8", "AH8"] "AH" "AK" 9 14 12,
   .table ["P8"] "AL" "AL" 8 14 12,
   .table ["A28"] "C" "P" 28 34 12,
   .table ["A48"] "C" "P" 48 55 12,
   .table ["A69", "C69", "C70", "C71"] "C" "I" 72 77 12,
   .table ["A69", "C69", "C70", "J71"] "J" "J" 72 77 12,
   .table ["A69", "C69", "K70", "K71"] "K" "O" 72 77 12,
   .table ["A69", "C69", "K70", "P71"] "P" "P" 72 77 12,
   .table ["A69", "Q69"] "Q" "S" 70 77 12,
   .table ["A69"] "T" "T" 69 77 12,
   .table ["A69", "U69"] "U" "W" 70 77 12,
   .table ["A69", "X69"] "X" "Y" 71 77 12,
   .table ["A69"] "Z" "AE" 69 77 12,
   .table ["AG69"] "AI" "AK" 69 77 12,
   .table ["A92", "C92"] "C" "E" 93 98 12,
   .table ["A92", "F92"] "F" "H" 93 98 12,
   .table ["A92", "I92"] "I" "I" 93 98 12,
   .table ["K92"] "M" "P" 92 98 12,
   .table ["R92", "T92"] "T" "V" 93 98 12,
   .table ["R92", "W92"] "W" "AB" 93 98 12,
   .table ["R92"] "AC" "AC" 92 98 12]

/-- The layout of the performance analysis report. -/
def Layout.analysis : Layout where
  constants := ["C6", "C7", "C8", "C9", "C14", "C15", "C16", "C17", "Y4"]
  accessors :=
    [("C10", .vectorLength),
     ("C4", .counterTimerFreq),
     ("G10", .processNo),
     ("G11", .cmgNo),
     ("G12", .measuredRegion),
     ("G4", .measuredTime),
     ("G5", .nodeName)]
  eventTable := some
    { headerRow := 29, firstRow := 30, lastRow := 41,
      firstColumn := "AC", lastColumn := "LV" }
  entries := analysisEntries

end ReportCompiler
