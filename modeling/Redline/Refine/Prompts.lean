import Redline.Template

/-!
# Prompts for a refinement

The prompt that asks for changed code, the prompt that asks whether a change is
right, and the form of the answer to the first.
-/

namespace Redline.Refine

def refinementPrompt : Template where
  names := ["original_code", "comments", "format_instructions"]
  text := textOfLines
    ["",
     "You are an expert software engineer implementing code changes based on specific review comments.",
     "You will be provided with original code and structured review comments. Your task is to incorporate the review comments into the original code.",
     "",
     "ORIGINAL CODE:",
     "```",
     "\x7boriginal_code\x7d",
     "```",
     "",
     "REVIEW COMMENTS:",
     "\x7bcomments\x7d",
     "",
     "KEY RULES:",
     "1. Implement EXACTLY what each review suggestion requires and do not make any changes to the code that are not requested in the suggestion. ",
     "For example, if a suggestion mentions \"use lazy loading for this expensive operation\", actually implement the lazy loading pattern as requested, not just make syntax changes.",
     "2. Your code implementation should follow the suggestion given - verify this.",
     "3. Pay special attention to algorithm suggestions and performance optimizations",
     "4. IMPORTANT: Your modified_code field should COMPLETELY REPLACE the original code - do not include both versions or mix them together.",
     "5. IMPORTANT: Your modified code field should not contain any import statements.",
     "5. IMPORTANT: Place any new import statements in the 'new_imports' field",
     "6. Only include imports needed for your changes that aren't already in the file.",
     "",
     "RETURN FORMAT:",
     "Return a structured response in this format:",
     "\x7bformat_instructions\x7d",
     ""]

/-- The prompt that asks for a judgement on changed code. -/
def verificationPrompt : Template where
  names := ["original_code", "modified_code", "comments", "format_instructions"]
  text := textOfLines
    ["You are verifying code changes to ensure they correctly implement review comments.",
     "",
     "ORIGINAL CODE:",
     "```",
     "\x7boriginal_code\x7d",
     "```",
     "",
     "MODIFIED CODE:",
     "```",
     "\x7bmodified_code\x7d",
     "```",
     "",
     "CHANGES WERE MADE TO ADDRESS THESE REVIEW SUGGESTIONS:",
     "\x7bcomments\x7d",
     "",
     "Verify:",
     "1. The implementation EXACTLY matches what was requested in the suggestions",
     "2. The proposed implementation actually fulfills the architectural or performance requirements mentioned",
     "3. The code does what the explanation claims without discrepancies",
     "",
     "Return a JSON document with your assessment:",
     "\x7bformat_instructions\x7d",
     ""]

def answerForm : Text := textOfLines
  ["",
   "            \x7b",
   "              \"function_name\": \"Name of the function or class that was modified\",",
   "              \"file_path\": \"Path to the file being modified\",",
   "              \"unit_start_line\": line_number_where_unit_begins,",
   "              \"unit_end_line\": line_number_where_unit_ends,",
   "              \"modified_code\": \"The modified code region with all accepted changes implemented\",",
   "              \"new_imports\": \"Any new import statements needed for the changes\",",
   "              \"implemented_suggestions\": [",
   "                \x7b",
   "                  \"suggestion_id\": \"ID from the input\",",
   "                  \"file_path\": \"Path to the file being modified\",",
   "                  \"line_number\": line_number_where_change_was_applied",
   "                \x7d",
   "              ],",
   "              \"skipped_suggestions\": [",
   "                \x7b",
   "                  \"suggestion_id\": \"ID from the input\",",
   "                  \"reason\": \"Brief reason\"",
   "                \x7d",
   "              ],",
   "              \"explanation\": \"Brief explanation of changes made\"",
   "            \x7d",
   "            "]

end Redline.Refine
