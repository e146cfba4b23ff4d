/-!
The script that makes a listing of a source file, for the interpreter to run.
-/
namespace ListingPanel

def helperLines : List String :=
  ["\"\"\"Print the bytecode of a Python source file, one instruction per line.",
   "",
   "Lines that start a new source line begin with the line number; every other",
   "line is indented, so only block heads start with digits.",
   "\"\"\"",
   "import dis",
   "import sys",
   "import types",
   "",
   "",
   "def line_of(instr):",
   "    # 3.13+ turned starts_line into a bool and moved the number to line_number",
   "    if hasattr(instr, \"line_number\"):",
   "        return instr.line_number if instr.starts_line else None",
   "    return instr.starts_line",
   "",
   "",
   "def show(code, title):",
   "    print(f\"Disassembly of \x7btitle\x7d:\")",
   "    for instr in dis.get_instructions(code):",
   "        line = line_of(instr)",
   "        arg = instr.argrepr or (\"\" if instr.arg is None else str(instr.arg))",
   "        if line is not None:",
   "            print(f\"\x7bline:>4\x7d  \x7binstr.opname:<24\x7d\x7barg\x7d\".rstrip())",
   "        else:",
   "            print(f\"      \x7binstr.opname:<24\x7d\x7barg\x7d\".rstrip())",
   "    for const in code.co_consts:",
   "        if isinstance(const, types.CodeType):",
   "            print()",
   "            show(const, f\"<code object \x7bconst.co_name\x7d>\")",
   "",
   "",
   "def main():",
   "    path = sys.argv[1]",
   "    with open(path, encoding=\"utf-8\") as f:",
   "        source = f.read()",
   "    show(compile(source, path, \"exec\"), \"<module>\")",
   "",
   "",
   "if __name__ == \"__main__\":",
   "    main()"]

def bundledHelper : String := String.join (helperLines.map (· ++ "\n"))

end ListingPanel
