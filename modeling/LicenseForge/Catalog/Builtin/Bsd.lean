/-!
# The BSD licenses

* `Builtin.bsdZero` : the lines of the template of the BSD Zero Clause License.
* `Builtin.bsdTwo` : the lines of the template of the BSD 2-Clause License.
* `Builtin.bsdThree` : the lines of the template of the BSD 3-Clause License.
-/

namespace LicenseForge.Builtin

/-- The template of the BSD Zero Clause License. -/
def bsdZero : List String :=
  ["id: 0bsd",
   "name: BSD Zero Clause License",
   "spdx: 0BSD",
   "category: Public domain equivalent",
   "description: The BSD Zero Clause license goes further than the BSD 2-Clause license " ++
     "to allow you unlimited freedom with the software without requirements to include the " ++
     "copyright notice, license text, or disclaimer in either source or binary forms.",
   "permissions:",
   "  - Commercial use",
   "  - Distribution",
   "  - Modification",
   "  - Private use",
   "limitations:",
   "  - Liability",
   "  - Warranty",
   "---",
   "BSD Zero Clause License",
   "",
   "Copyright (c) \x7b\x7byear\x7d\x7d \x7b\x7bname\x7d\x7d",
   "",
   "Permission to use, copy, modify, and/or distribute this software for any",
   "purpose with or without fee is hereby granted.",
   "",
   "THE SOFTWARE IS PROVIDED \"AS IS\" AND THE AUTHOR DISCLAIMS ALL WARRANTIES WITH",
   "REGARD TO THIS SOFTWARE INCLUDING ALL IMPLIED WARRANTIES OF MERCHANTABILITY",
   "AND FITNESS. IN NO EVENT SHALL THE AUTHOR BE LIABLE FOR ANY SPECIAL, DIRECT,",
   "INDIRECT, OR CONSEQUENTIAL DAMAGES OR ANY DAMAGES WHATSOEVER RESULTING FROM",
   "LOSS OF USE, DATA OR PROFITS, WHETHER IN AN ACTION OF CONTRACT, NEGLIGENCE OR",
   "OTHER TORTIOUS ACTION, ARISING OUT OF OR IN CONNECTION WITH THE USE OR",
   "PERFORMANCE OF THIS SOFTWARE."]

/-- The template of the BSD 2-Clause License. -/
def bsdTwo : List String :=
  ["id: bsd-2-clause",
   "name: BSD 2-Clause \"Simplified\" License",
   "spdx: BSD-2-Clause",
   "category: Permissive",
   "description: A permissive license that comes in two variants, the BSD 2-Clause and " ++
     "BSD 3-Clause. Both have very minute differences to the MIT license.",
   "permissions:",
   "  - Commercial use",
   "  - Modification",
   "  - Distribution",
   "  - Private use",
   "conditions:",
   "  - License and copyright notice",
   "limitations:",
   "  - Liability",
   "  - Warranty",
   "---",
   "BSD 2-Clause License",
   "",
   "Copyright (c) \x7b\x7byear\x7d\x7d, \x7b\x7bname\x7d\x7d",
   "",
   "Redistribution and use in source and binary forms, with or without",
   "modification, are permitted provided that the following conditions are met:",
   "",
   "1. Redistributions of source code must retain the above copyright notice, this",
   "   list of conditions and the following disclaimer.",
   "",
   "2. Redistributions in binary form must reproduce the above copyright notice,",
   "   this list of conditions and the following disclaimer in the documentation",
   "   and/or other materials provided with the distribution.",
   "",
   "THIS SOFTWARE IS PROVIDED BY THE COPYRIGHT HOLDERS AND CONTRIBUTORS \"AS IS\"",
   "AND ANY EXPRESS OR IMPLIED WARRANTIES, INCLUDING, BUT NOT LIMITED TO, THE",
   "IMPLIED WARRANTIES OF MERCHANTABILITY AND FITNESS FOR A PARTICULAR PURPOSE ARE",
   "DISCLAIMED. IN NO EVENT SHALL THE COPYRIGHT HOLDER OR CONTRIBUTORS BE LIABLE",
   "FOR ANY DIRECT, INDIRECT, INCIDENTAL, SPECIAL, EXEMPLARY, OR CONSEQUENTIAL",
   "DAMAGES (INCLUDING, BUT NOT LIMITED TO, PROCUREMENT OF SUBSTITUTE GOODS OR",
   "SERVICES; LOSS OF USE, DATA, OR PROFITS; OR BUSINESS INTERRUPTION) HOWEVER",
   "CAUSED AND ON ANY THEORY OF LIABILITY, WHETHER IN CONTRACT, STRICT LIABILITY,",
   "OR TORT (INCLUDING NEGLIGENCE OR OTHERWISE) ARISING IN ANY WAY OUT OF THE USE",
   "OF THIS SOFTWARE, EVEN IF ADVISED OF THE POSSIBILITY OF SUCH DAMAGE."]

/-- The template of the BSD 3-Clause License. -/
def bsdThree : List String :=
  ["id: bsd-3-clause",
   "name: BSD 3-Clause \"New\" or \"Revised\" License",
   "spdx: BSD-3-Clause",
   "category: Permissive",
   "description: A permissive license similar to the BSD 2-Clause License, but with a " ++
     "3rd clause that prohibits others from using the name of the copyright holder or its " ++
     "contributors to promote derived products without written consent.",
   "permissions:",
   "  - Commercial use",
   "  - Modification",
   "  - Distribution",
   "  - Private use",
   "conditions:",
   "  - License and copyright notice",
   "limitations:",
   "  - Liability",
   "  - Warranty",
   "---",
   "BSD 3-Clause License",
   "",
   "Copyright (c) \x7b\x7byear\x7d\x7d, \x7b\x7bname\x7d\x7d",
   "",
   "Redistribution and use in source and binary forms, with or without",
   "modification, are permitted provided that the following conditions are met:",
   "",
   "1. Redistributions of source code must retain the above copyright notice, this",
   "   list of conditions and the following disclaimer.",
   "",
   "2. Redistributions in binary form must reproduce the above copyright notice,",
   "   this list of conditions and the following disclaimer in the documentation",
   "   and/or other materials provided with the distribution.",
   "",
   "3. Neither the name of the copyright holder nor the names of its",
   "   contributors may be used to endorse or promote products derived from",
   "   this software without specific prior written permission.",
   "",
   "THIS SOFTWARE IS PROVIDED BY THE COPYRIGHT HOLDERS AND CONTRIBUTORS \"AS IS\"",
   "AND ANY EXPRESS OR IMPLIED WARRANTIES, INCLUDING, BUT NOT LIMITED TO, THE",
   "IMPLIED WARRANTIES OF MERCHANTABILITY AND FITNESS FOR A PARTICULAR PURPOSE ARE",
   "DISCLAIMED. IN NO EVENT SHALL THE COPYRIGHT HOLDER OR CONTRIBUTORS BE LIABLE",
   "FOR ANY DIRECT, INDIRECT, INCIDENTAL, SPECIAL, EXEMPLARY, OR CONSEQUENTIAL",
   "DAMAGES (INCLUDING, BUT NOT LIMITED TO, PROCUREMENT OF SUBSTITUTE GOODS OR",
   "SERVICES; LOSS OF USE, DATA, OR PROFITS; OR BUSINESS INTERRUPTION) HOWEVER",
   "CAUSED AND ON ANY THEORY OF LIABILITY, WHETHER IN CONTRACT, STRICT LIABILITY,",
   "OR TORT (INCLUDING NEGLIGENCE OR OTHERWISE) ARISING IN ANY WAY OUT OF THE USE",
   "OF THIS SOFTWARE, EVEN IF ADVISED OF THE POSSIBILITY OF SUCH DAMAGE."]

end LicenseForge.Builtin
