/-!
# The MIT and ISC licenses

* `Builtin.mit` : the lines of the template of the MIT License.
* `Builtin.isc` : the lines of the template of the ISC License.
-/

namespace LicenseForge.Builtin

/-- The template of the MIT License. -/
def mit : List String :=
  ["id: mit",
   "name: MIT License",
   "spdx: MIT",
   "category: Permissive",
   "description: A short and simple permissive license with conditions only requiring " ++
     "preservation of copyright and license notices. Licensed works, modifications, and " ++
     "larger works may be distributed under different terms and without source code.",
   "permissions:",
   "  - Commercial use",
   "  - Modification",
   "  - Distribution",
   "  - Private use",
   "conditions:",
   "  - License and copyright notice",
   "limitations:",
   "  - Liability",
   "  - Warranty",
   "---",
   "MIT License",
   "",
   "Copyright (c) \x7b\x7byear\x7d\x7d \x7b\x7bname\x7d\x7d",
   "",
   "Permission is hereby granted, free of charge, to any person obtaining a copy",
   "of this software and associated documentation files (the \"Software\"), to deal",
   "in the Software without restriction, including without limitation the rights",
   "to use, copy, modify, merge, publish, distribute, sublicense, and/or sell",
   "copies of the Software, and to permit persons to whom the Software is",
   "furnished to do so, subject to the following conditions:",
   "",
   "The above copyright notice and this permission notice shall be included in all",
   "copies or substantial portions of the Software.",
   "",
   "THE SOFTWARE IS PROVIDED \"AS IS\", WITHOUT WARRANTY OF ANY KIND, EXPRESS OR",
   "IMPLIED, INCLUDING BUT NOT LIMITED TO THE WARRANTIES OF MERCHANTABILITY,",
   "FITNESS FOR A PARTICULAR PURPOSE AND NONINFRINGEMENT. IN NO EVENT SHALL THE",
   "AUTHORS OR COPYRIGHT HOLDERS BE LIABLE FOR ANY CLAIM, DAMAGES OR OTHER",
   "LIABILITY, WHETHER IN AN ACTION OF CONTRACT, TORT OR OTHERWISE, ARISING FROM,",
   "OUT OF OR IN CONNECTION WITH THE SOFTWARE OR THE USE OR OTHER DEALINGS IN THE",
   "SOFTWARE."]

/-- The template of the ISC License. -/
def isc : List String :=
  ["id: isc",
   "name: ISC License",
   "spdx: ISC",
   "category: Permissive",
   "description: A permissive license lets people do anything with your code with proper " ++
     "attribution and without warranty. It is functionally equivalent to the two-clause " ++
     "BSD license, removing some language made unnecessary by the Berne convention.",
   "permissions:",
   "  - Commercial use",
   "  - Modification",
   "  - Distribution",
   "  - Private use",
   "conditions:",
   "  - License and copyright notice",
   "limitations:",
   "  - Liability",
   "  - Warranty",
   "---",
   "ISC License",
   "",
   "Copyright (c) \x7b\x7byear\x7d\x7d \x7b\x7bname\x7d\x7d",
   "",
   "Permission to use, copy, modify, and/or distribute this software for any",
   "purpose with or without fee is hereby granted, provided that the above",
   "copyright notice and this permission notice appear in all copies.",
   "",
   "THE SOFTWARE IS PROVIDED \"AS IS\" AND THE AUTHOR DISCLAIMS ALL WARRANTIES",
   "WITH REGARD TO THIS SOFTWARE INCLUDING ALL IMPLIED WARRANTIES OF",
   "MERCHANTABILITY AND FITNESS. IN NO EVENT SHALL THE AUTHOR BE LIABLE FOR",
   "ANY SPECIAL, DIRECT, INDIRECT, OR CONSEQUENTIAL DAMAGES OR ANY DAMAGES",
   "WHATSOEVER RESULTING FROM LOSS OF USE, DATA OR PROFITS, WHETHER IN AN",
   "ACTION OF CONTRACT, NEGLIGENCE OR OTHER TORTIOUS ACTION, ARISING OUT OF",
   "OR IN CONNECTION WITH THE USE OR PERFORMANCE OF THIS SOFTWARE."]

end LicenseForge.Builtin
