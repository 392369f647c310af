/-!
The module of validators that all controls of a form share.
-/

namespace AspectForms

def sharedValidatorLines : List String :=
  ["",
    "import \x7b AbstractControl, FormGroup, ValidationErrors, ValidatorFn \x7d from '@angular/forms';",
    "",
    "export type BoundDefinition = 'OPEN' | 'AT_LEAST' | 'GREATER_THAN' | 'LESS_THAN' | 'AT_MOST';",
    "",
    "export interface DeconstructionRule \x7b",
    "  name: string;",
    "  rule: string;",
    "\x7d",
    "",
    "const DURATION = /^-?P(?=\\d|T\\d)(\\d+Y)?(\\d+M)?(\\d+D)?(T(?=\\d)(\\d+H)?(\\d+M)?(\\d+(\\.\\d+)?S)?)?$/;",
    "const DAY_TIME_DURATION = /^-?P(?=\\d|T\\d)(\\d+D)?(T(?=\\d)(\\d+H)?(\\d+M)?(\\d+(\\.\\d+)?S)?)?$/;",
    "const YEAR_MONTH_DURATION = /^-?P(?=\\d)(\\d+Y)?(\\d+M)?$/;",
    "const TIME = /^([01]\\d|2[0-3]):[0-5]\\d:[0-5]\\d(\\.\\d+)?(Z|[+-]\\d\\d:\\d\\d)?$/;",
    "",
    "function isEmpty(value: unknown): boolean \x7b",
    "  return value === null || value === undefined || value === '' || (Array.isArray(value) && value.length === 0);",
    "\x7d",
    "",
    "function matching(pattern: RegExp, error: string): ValidatorFn \x7b",
    "  return (control: AbstractControl): ValidationErrors | null => \x7b",
    "    if (isEmpty(control.value) || pattern.test(String(control.value))) \x7b",
    "      return null;",
    "    \x7d",
    "    return \x7b [error]: \x7b value: control.value \x7d \x7d;",
    "  \x7d;",
    "\x7d",
    "",
    "function childValues(control: AbstractControl): Array<[string, unknown]> \x7b",
    "  if (!(control instanceof FormGroup)) \x7b",
    "    return [];",
    "  \x7d",
    "  return Object.entries(control.controls).map(([name, child]) => [name, child.value]);",
    "\x7d",
    "",
    "export class FormValidators \x7b",
    "  static rangeValidator(",
    "    min: number | undefined,",
    "    max: number | undefined,",
    "    lower: BoundDefinition,",
    "    upper: BoundDefinition,",
    "  ): ValidatorFn \x7b",
    "    return (control: AbstractControl): ValidationErrors | null => \x7b",
    "      if (isEmpty(control.value)) \x7b",
    "        return null;",
    "      \x7d",
    "      const value = typeof control.value === 'number' ? control.value : Number(control.value);",
    "      if (Number.isNaN(value)) \x7b",
    "        return \x7b range: \x7b value: control.value \x7d \x7d;",
    "      \x7d",
    "      const aboveMin =",
    "        min === undefined || lower === 'OPEN' || (lower === 'GREATER_THAN' ? value > min : value >= min);",
    "      const belowMax =",
    "        max === undefined || upper === 'OPEN' || (upper === 'LESS_THAN' ? value < max : value <= max);",
    "      return aboveMin && belowMax ? null : \x7b range: \x7b min, max, lower, upper, actual: value \x7d \x7d;",
    "    \x7d;",
    "  \x7d",
    "",
    "  static lengthValidator(min: number | undefined, max: number | undefined): ValidatorFn \x7b",
    "    return (control: AbstractControl): ValidationErrors | null => \x7b",
    "      if (isEmpty(control.value)) \x7b",
    "        return null;",
    "      \x7d",
    "      const length = Array.isArray(control.value) ? control.value.length : String(control.value).length;",
    "      const tooShort = min !== undefined && length < min;",
    "      const tooLong = max !== undefined && length > max;",
    "      return tooShort || tooLong ? \x7b length: \x7b min, max, actual: length \x7d \x7d : null;",
    "    \x7d;",
    "  \x7d",
    "",
    "  static patternValidator(pattern: string): ValidatorFn \x7b",
    "    return matching(new RegExp(pattern), 'pattern');",
    "  \x7d",
    "",
    "  static encodingValidator(encoding: string): ValidatorFn \x7b",
    "    return (control: AbstractControl): ValidationErrors | null => \x7b",
    "      if (isEmpty(control.value)) \x7b",
    "        return null;",
    "      \x7d",
    "      const text = String(control.value);",
    "      let valid = true;",
    "      if (encoding === 'US-ASCII') \x7b",
    "        valid = /^[\\x00-\\x7F]*$/.test(text);",
    "      \x7d else if (encoding === 'ISO-8859-1') \x7b",
    "        valid = /^[\\x00-\\xFF]*$/.test(text);",
    "      \x7d else \x7b",
    "        try \x7b",
    "          encodeURIComponent(text);",
    "        \x7d catch \x7b",
    "          valid = false;",
    "        \x7d",
    "      \x7d",
    "      return valid ? null : \x7b encoding: \x7b encoding, value: control.value \x7d \x7d;",
    "    \x7d;",
    "  \x7d",
    "",
    "  static fixedPointValidator(integer: number, scale: number): ValidatorFn \x7b",
    "    const pattern = new RegExp(`^[+-]?\\\\d\x7b0,$\x7binteger\x7d\x7d(\\\\.\\\\d\x7b0,$\x7bscale\x7d\x7d)?$`);",
    "    return matching(pattern, 'fixedPoint');",
    "  \x7d",
    "",
    "  static uniqueValuesValidator(names: string[]): ValidatorFn \x7b",
    "    return (control: AbstractControl): ValidationErrors | null => \x7b",
    "      const values = childValues(control)",
    "        .filter(([name, value]) => names.includes(name) && !isEmpty(value))",
    "        .map(([, value]) => JSON.stringify(value));",
    "      return new Set(values).size === values.length ? null : \x7b uniqueValues: \x7b names \x7d \x7d;",
    "    \x7d;",
    "  \x7d",
    "",
    "  static deconstructionRuleValidator(rules: DeconstructionRule[]): ValidatorFn \x7b",
    "    return (control: AbstractControl): ValidationErrors | null => \x7b",
    "      const values = new Map(childValues(control));",
    "      const failed = rules",
    "        .filter((\x7b name, rule \x7d) => \x7b",
    "          const value = values.get(name);",
    "          return !isEmpty(value) && !new RegExp(`^(?:$\x7brule\x7d)$`).test(String(value));",
    "        \x7d)",
    "        .map((\x7b name \x7d) => name);",
    "      return failed.length === 0 ? null : \x7b deconstructionRule: \x7b failed \x7d \x7d;",
    "    \x7d;",
    "  \x7d",
    "",
    "  static durationValidator(): ValidatorFn \x7b",
    "    return matching(DURATION, 'duration');",
    "  \x7d",
    "",
    "  static dayTimeDurationValidator(): ValidatorFn \x7b",
    "    return matching(DAY_TIME_DURATION, 'dayTimeDuration');",
    "  \x7d",
    "",
    "  static yearMonthDurationValidator(): ValidatorFn \x7b",
    "    return matching(YEAR_MONTH_DURATION, 'yearMonthDuration');",
    "  \x7d",
    "",
    "  static timeValidator(): ValidatorFn \x7b",
    "    return matching(TIME, 'time');",
    "  \x7d",
    "\x7d",
    ""]

end AspectForms
