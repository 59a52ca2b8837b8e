/-!
# The fixed part of programs

Every program begins with the same text: a reader of profiler reports, the functions that
expressions call, and the command line.  It has four blanks, which are written between double braces
and filled in for each program.

* `openingLines` - the lines of that text.
* `replaceAll` - every place of a blank filled in.
-/

namespace ReportCompiler

/-- The lines that every program begins with. -/
def openingLines : List String :=
  ["#!/usr/bin/env python3",
   "# Generated by sheetc from \x7b\x7bSOURCE\x7d\x7d. Edit the workbook, not this file.",
   "import argparse",
   "import json",
   "import sys",
   "import xml.etree.ElementTree as ET",
   "from collections import defaultdict",
   "from pathlib import Path",
   "",
   "EXPECTED_REPORT_FILES = \x7b\x7bEXPECTED_REPORT_FILES\x7d\x7d",
   "",
   "",
   "class FappXml:",
   "    \"\"\"Reads the per-thread pa<N>.xml reports of one profiler run.\"\"\"",
   "",
   "    def __init__(self, path, region_name=\"\x7b\x7bREGION\x7d\x7d\", cmg=0):",
   "        self.region_name = region_name",
   "        self.cmg = cmg",
   "        self._load(path)",
   "        self._index_events()",
   "        self._collect_cmg_threads()",
   "",
   "    def _load(self, path):",
   "        report_dir = Path(path).expanduser()",
   "        files = sorted(report_dir.glob(\"pa*.xml\"))",
   "        if len(files) != EXPECTED_REPORT_FILES:",
   "            sys.exit(",
   "                f\"expected \x7bEXPECTED_REPORT_FILES\x7d pa*.xml files in \x7breport_dir\x7d, found \x7blen(files)\x7d\"",
   "            )",
   "        self.xmls = [None] * len(files)",
   "        for file in files:",
   "            index = int(file.stem[2:]) - 1",
   "            self.xmls[index] = ET.parse(file)",
   "",
   "    def _region(self):",
   "        return f\"./information/region[@name='\x7bself.region_name\x7d']\"",
   "",
   "    def _index_events(self):",
   "        self.event_files = defaultdict(list)",
   "        query = self._region() + \"/spawn/process/thread/cpupa/event\"",
   "        for index, xml in enumerate(self.xmls):",
   "            for event in xml.getroot().findall(query):",
   "                self.event_files[event.get(\"name\")].append(index)",
   "        if not self.event_files:",
   "            sys.exit(f\"no events recorded for region '\x7bself.region_name\x7d' (wrong --region?)\")",
   "",
   "    def _collect_cmg_threads(self):",
   "        self.cmg_threads = [",
   "            thread.attrib[\"id\"]",
   "            for thread in self.xmls[0].findall(\"./environment/spawn/process/thread\")",
   "            if int(thread.find(\"cmg\").attrib[\"id\"]) == self.cmg",
   "        ]",
   "        if not self.cmg_threads:",
   "            sys.exit(f\"no threads found on CMG \x7bself.cmg\x7d\")",
   "",
   "    def get_event(self, event_name, thread_id):",
   "        if not 0 <= thread_id < len(self.cmg_threads):",
   "            raise IndexError(f\"thread \x7bthread_id\x7d out of range\")",
   "        if event_name == \"LABEL-FAPP-cpupa\":",
   "            query = self._region() + f\"/spawn/process/thread[@id='\x7bthread_id\x7d']/cpupa\"",
   "            return \"FAPP-cpupa\" if self.xmls[0].findall(query) else \"\"",
   "        files = self.event_files.get(event_name)",
   "        if not files:",
   "            return \"\"",
   "        tid = self.cmg_threads[thread_id]",
   "        query = self._region() + f\"/spawn/process/thread[@id='\x7btid\x7d']/cpupa/event[@name='\x7bevent_name\x7d']\"",
   "        element = self.xmls[files[0]].find(query)",
   "        return \"\" if element is None else int(element.text)",
   "",
   "    def get_measured_time(self):",
   "        return self.xmls[0].find(\"./environment/measured_time\").text",
   "",
   "    def get_node_name(self):",
   "        return self.xmls[0].find(\"./environment/spawn/process/host\").get(\"name\")",
   "",
   "    def get_process_no(self):",
   "        return int(self.xmls[0].find(\"./environment/spawn/process\").get(\"id\"))",
   "",
   "    def get_cmg_no(self):",
   "        return int(self.xmls[0].find(\"./environment/spawn/process/thread/cmg\").get(\"id\"))",
   "",
   "    def get_measured_region(self):",
   "        region = self.xmls[0].find(self._region())",
   "        return [region.get(\"name\"), int(region.get(\"id\"))]",
   "",
   "    def get_vector_length(self):",
   "        return int(self.xmls[0].find(\"./environment/vector_length\").get(\"vlen\"))",
   "",
   "    def get_counter_timer_freq(self):",
   "        return int(self.xmls[0].find(\"./environment/spawn/process/cntfrq\").text)",
   "",
   "",
   "def sum_skip_empty(values):",
   "    return sum(v for v in values if v != \"\")",
   "",
   "",
   "def count_non_empty(values):",
   "    return sum(1 for v in values if v != \"\")",
   "",
   "",
   "def _xls_text(value):",
   "    if isinstance(value, bool):",
   "        return \"TRUE\" if value else \"FALSE\"",
   "    if isinstance(value, float) and value.is_integer():",
   "        return str(int(value))",
   "    return str(value)",
   "",
   "",
   "def xls_concat(a, b):",
   "    return _xls_text(a) + _xls_text(b)",
   "",
   "",
   "def add_path(path, key, value, results):",
   "    node = results",
   "    for label in path:",
   "        node = node.setdefault(label, \x7b\x7d)",
   "    node[key] = value",
   "",
   "",
   "try:",
   "    from guard_limit import vba_guard_limit_lower, vba_guard_limit_upper",
   "except ImportError:",
   "",
   "    def vba_guard_limit_lower(*args):",
   "        raise NotImplementedError(\"vba_guard_limit_lower: guard_limit module not found\")",
   "",
   "    def vba_guard_limit_upper(*args):",
   "        raise NotImplementedError(\"vba_guard_limit_upper: guard_limit module not found\")",
   "",
   "",
   "_parser = argparse.ArgumentParser(description=\"Evaluate the \x7b\x7bSOURCE\x7d\x7d report on profiler output\")",
   "_parser.add_argument(\"report_dir\", help=\"directory holding the pa*.xml reports\")",
   "_parser.add_argument(\"--region\", default=\"\x7b\x7bREGION\x7d\x7d\", help=\"measured region name\")",
   "_parser.add_argument(\"--cmg\", type=int, default=0, help=\"CMG whose threads are reported\")",
   "_args = _parser.parse_args()",
   "",
   "\x7b\x7bACCESSOR\x7d\x7d = FappXml(_args.report_dir, region_name=_args.region, cmg=_args.cmg)",
   ""]

/-- Lines as one text, each with its end of line. -/
def unlines (lines : List String) : List Char :=
  lines.flatMap fun line => line.toList ++ ['\n']

/-- The text with every place of `pattern` replaced, from left to right.  What is put in is not
looked into again. -/
def replaceAll (pattern replacement : List Char) (cs : List Char) : List Char :=
  match cs with
  | [] => []
  | c :: rest =>
    if pattern.isPrefixOf (c :: rest) then
      replacement ++ replaceAll pattern replacement (rest.drop (pattern.length - 1))
    else c :: replaceAll pattern replacement rest
termination_by cs.length
decreasing_by all_goals (simp only [List.length_drop, List.length_cons]; omega)

/-- A blank of the template, by its name. -/
def placeholder (name : String) : List Char :=
  ['{', '{'] ++ name.toList ++ ['}', '}']

end ReportCompiler
