import Redline.Template

/-!
# Prompts for a review

The two prompts that ask for a review, one for code and one for tests, the
form of the answer that they ask for, and the sections of which the code in a
prompt is made.
-/

namespace Redline.Review

/-- The values that a prompt for a review takes. -/
def promptNames : List String :=
  ["file_path", "code_diff", "additional_context", "format_instructions", "compare_instruction"]

def codePrompt : Template where
  names := promptNames
  text := textOfLines
    ["You are an expert code reviewer.",
     "Priority areas:",
     "1. Security - Vulnerabilities, auth issues",
     "2. Performance - Critical bottlenecks",
     "3. Code Quality - Major design flaws",
     "4. Maintainability - Significant duplication issues",
     "",
     "Context:",
     "File: \x7bfile_path\x7d",
     "",
     "Code Unit Context: ",
     "\x7bcode_diff\x7d",
     "",
     "Additional Information: \x7badditional_context\x7d",
     "",
     "Instructions:",
     "- Review THIS SPECIFIC CODE UNIT, not the entire file",
     "- \x7bcompare_instruction\x7d",
     "- Examine the specific changes made (in the diff sections)",
     "- Suggest improvements based on what changed in this unit",
     "- Check for issues that might be introduced by these changes",
     "",
     "Return JSON per schema: \x7bformat_instructions\x7d",
     "",
     "KEY RULES:",
     "1. Aggregate similar low-severity issues into ONE comment",
     "2. Format: [file:line], Category (Quality/Performance/Security/Testing/Maintainability), Severity",
     "3. Be specific and actionable",
     "4. For each comment, carefully determine which side of the diff it belongs on:",
     "   - Use \"RIGHT\" for comments about new/modified code in the diff",
     "   - Use \"LEFT\" for comments about removed/old code in the diff",
     "   - Default to \"RIGHT\" if the comment applies to both sides or you're unsure",
     ""]

def testPrompt : Template where
  names := promptNames
  text := textOfLines
    ["Expert test reviewer.",
     "Priority areas:",
     "1. Test Coverage - Missing critical scenarios, essential edge cases",
     "2. Test Quality - Major structural flaws, critical assertion issues",
     "3. Test Maintainability - Major organization problems",
     "",
     "Context:",
     "File: \x7bfile_path\x7d",
     "Code Unit Context: \x7bcode_diff\x7d",
     "Additional Information: \x7badditional_context\x7d",
     "",
     "Instructions:",
     "- Review THIS SPECIFIC TEST UNIT, not the entire file",
     "- \x7bcompare_instruction\x7d",
     "- Examine the specific changes made (in the diff sections)",
     "- Verify that the test coverage remains adequate after changes",
     "- Check for test issues that might be introduced by these changes",
     "",
     "Return JSON per schema: \x7bformat_instructions\x7d",
     "",
     "KEY RULES:",
     "1. Aggregate similar low-severity issues into ONE comment",
     "2. Format: [file:line], Category (Coverage/Quality/Maintainability), Severity",
     "3. Be specific and actionable",
     "4. For each comment, carefully determine which side of the diff it belongs on:",
     "   - Use \"RIGHT\" for comments about new/modified code in the diff",
     "   - Use \"LEFT\" for comments about removed/old code in the diff",
     "   - Default to \"RIGHT\" if the comment applies to both sides or you're unsure",
     ""]

def answerForm : Text := textOfLines
  ["",
   "            \x7b",
   "              \"comments\": [",
   "                \x7b",
   "                  \"file_path\": \"string (e.g. main.py)\",",
   "                  \"line_number\": \"integer (e.g. 42)\",",
   "                  \"category\": \"string (one of: Quality, Performance, Security, Testing, Maintainability, Coverage)\",",
   "                  \"severity\": \"string (one of: High, Medium, Low)\",",
   "                  \"description\": \"string (detailed description of the issue)\",",
   "                  \"suggestion\": \"string (concrete suggestion with examples for improvement)\",",
   "                  \"side\": \"string (one of: LEFT, RIGHT) - LEFT for old/deleted code, RIGHT for new/modified code\"",
   "                \x7d",
   "              ]",
   "            \x7d",
   "            "]

/-! ## Sections -/

def unitTemplate : Template where
  names := ["file_path", "before_section", "after_section", "changes_section"]
  text := textOfLines
    ["## Code Unit in \x7bfile_path\x7d",
     "",
     "\x7bbefore_section\x7d",
     "",
     "\x7bafter_section\x7d",
     "",
     "\x7bchanges_section\x7d"]

def beforeTemplate : Template where
  names := ["line_range", "code"]
  text := textOfLines
    ["### Before (lines \x7bline_range\x7d):",
     "```",
     "\x7bcode\x7d",
     "```"]

def afterTemplate : Template where
  names := ["line_range", "code"]
  text := textOfLines
    ["### After (lines \x7bline_range\x7d):",
     "```",
     "\x7bcode\x7d",
     "```"]

def changesTemplate : Template where
  names := ["diff_blocks"]
  text := textOfLines
    ["## Changes:",
     "",
     "\x7bdiff_blocks\x7d"]

def diffTemplate : Template where
  names := ["diff_text"]
  text := textOfLines
    ["```diff",
     "\x7bdiff_text\x7d",
     "```"]

end Redline.Review
